/-!
# The platform

What differs between systems, and the limits of this driver: names of the native library, the loader
interface versions it speaks, and how many command buffers one native call takes.
-/

namespace VulkanBridge.Platform

/-- File names of the native Vulkan library, in look-up order. -/
def libraryNames : List String := ["libvulkan.so.1"]

def name : String := "linux"

/-- The highest loader interface version this driver speaks. -/
def maxInterfaceVersion : UInt32 := 2

/-- Command buffers handed to the native driver in one call. -/
def batchSize : Nat := 32

/-- The system-wide configuration file. -/
def systemConfigPath : String := "/etc/vkshim/vkshim.toml"

/-- The configuration file of the working directory. -/
def localConfigPath : String := "vkshim.toml"

end VulkanBridge.Platform
