import VulkanBridge.SortedTable
/-!
# Entry points by name

The loader and the application ask for entry points by name. Two tables hold them: `instanceTable` for
those called on an instance or physical device (and the loader's own), `deviceTable` for those called on a
device, queue or command buffer. Both are sorted by name in byte order. A name in neither resolves to
nothing, which callers that probe for optional functions read as "not supported".
-/

namespace VulkanBridge

/-- An exported function, known by its symbol. -/
structure ExportedFunction where
  symbol : String
  deriving DecidableEq

/-- A name under which a function can be found. -/
structure EntryPoint where
  name : String
  function : ExportedFunction
  deriving DecidableEq

namespace EntryPoint

/-- The name as bytes, the order in which tables are sorted. -/
def bytes (name : String) : List UInt8 := name.toUTF8.data.toList

/-- The name's own bytes. -/
def key (entry : EntryPoint) : List UInt8 := bytes entry.name

/-- A function found under its own symbol. -/
def named (symbol : String) : EntryPoint := ⟨symbol, ⟨symbol⟩⟩

/-- Entry points of instances and physical devices, and those that the loader itself calls. Under the
general resolver's public name the loader finds the resolver it negotiates through. -/
def instanceTable : Array EntryPoint := #[
  named "vkCreateDevice",
  named "vkCreateInstance",
  named "vkDestroyInstance",
  named "vkEnumerateDeviceExtensionProperties",
  named "vkEnumerateDeviceLayerProperties",
  named "vkEnumerateInstanceExtensionProperties",
  named "vkEnumerateInstanceLayerProperties",
  named "vkEnumeratePhysicalDevices",
  ⟨"vkGetInstanceProcAddr", ⟨"vk_icdGetInstanceProcAddr"⟩⟩,
  named "vkGetPhysicalDeviceFeatures",
  named "vkGetPhysicalDeviceFormatProperties",
  named "vkGetPhysicalDeviceMemoryProperties",
  named "vkGetPhysicalDeviceProperties",
  named "vkGetPhysicalDeviceQueueFamilyProperties",
  named "vk_icdGetInstanceProcAddr",
  named "vk_icdNegotiateLoaderICDInterfaceVersion"]

/-- Entry points of devices, queues and command buffers. -/
def deviceTable : Array EntryPoint := #[
  named "vkAllocateCommandBuffers",
  named "vkBeginCommandBuffer",
  named "vkCmdCopyBuffer",
  named "vkCmdDispatch",
  named "vkCmdExecuteCommands",
  named "vkCmdFillBuffer",
  named "vkCmdPipelineBarrier",
  named "vkCreateCommandPool",
  named "vkCreateFence",
  named "vkDestroyCommandPool",
  named "vkDestroyDevice",
  named "vkDestroyFence",
  named "vkDeviceWaitIdle",
  named "vkEndCommandBuffer",
  named "vkFreeCommandBuffers",
  named "vkGetDeviceProcAddr",
  named "vkGetDeviceQueue",
  named "vkGetFenceStatus",
  named "vkQueueSubmit",
  named "vkQueueWaitIdle",
  named "vkResetCommandBuffer",
  named "vkResetCommandPool",
  named "vkResetFences",
  named "vkWaitForFences"]

/-- The entry of a table under a name. -/
def find (table : Array EntryPoint) (name : List UInt8) : Option EntryPoint :=
  SortedTable.binarySearch table fun entry => compare entry.key name

/-- Look-up at instance scope, where device-level entry points are visible too. -/
def lookupInstance (name : List UInt8) : Option ExportedFunction :=
  ((find instanceTable name).or (find deviceTable name)).map (·.function)

/-- Look-up at device scope. -/
def lookupDevice (name : List UInt8) : Option ExportedFunction :=
  (find deviceTable name).map (·.function)

/-- The name in zero-terminated memory: the bytes before the first zero, if they are valid UTF-8. -/
def readName (memory : List UInt8) : Option (List UInt8) :=
  let name := memory.takeWhile (· ≠ 0)
  if ByteArray.validateUTF8 ⟨name.toArray⟩ then some name else none

/-- The loader's resolver; a null name resolves to nothing. -/
def resolveInstance (name : Option (List UInt8)) : Option ExportedFunction :=
  (name.bind readName).bind lookupInstance

/-- The device-level resolver; a null name resolves to nothing. -/
def resolveDevice (name : Option (List UInt8)) : Option ExportedFunction :=
  (name.bind readName).bind lookupDevice

end EntryPoint

end VulkanBridge
