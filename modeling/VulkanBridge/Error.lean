import VulkanBridge.Result
/-!
# Why a call fails

`CallError` lists the causes. `CallError.result` is the code an instance-level call reports for a
cause, `CallError.deviceResult` the code a device-level call reports: there a handle that is not what
the call needs reads as a lost device.
-/

namespace VulkanBridge

inductive CallError where
  | outOfHostMemory
  | layerNotPresent (requested : UInt32)
  | extensionNotPresent (requested : UInt32)
  | libraryNotFound (reason : String)
  | missingEntryPoint (name : String)
  | invalidHandle (kind : String)
  | native (code : ResultCode)
  deriving DecidableEq

namespace CallError

/-- The cause in words. -/
def message : CallError → String
  | outOfHostMemory => "host allocation failed"
  | layerNotPresent requested => s!"layers are not supported ({requested} requested)"
  | extensionNotPresent requested => s!"extensions are not supported ({requested} requested)"
  | libraryNotFound reason => "native Vulkan library not found: " ++ reason
  | missingEntryPoint name => "native entry point missing: " ++ name
  | invalidHandle kind => "invalid " ++ kind ++ " handle"
  | native code => "native call failed: " ++ code.describe

/-- The code an instance-level call reports. -/
def result : CallError → ResultCode
  | outOfHostMemory => .outOfHostMemory
  | layerNotPresent _ => .layerNotPresent
  | extensionNotPresent _ => .extensionNotPresent
  | libraryNotFound _ | missingEntryPoint _ | invalidHandle _ => .initializationFailed
  | native code => code

/-- The code a device-level call reports. -/
def deviceResult : CallError → ResultCode
  | invalidHandle _ => .deviceLost
  | error => error.result

/-- Layers and extensions are refused, layers first. -/
def ofUnsupported (layers extensions : UInt32) : Option CallError :=
  if 0 < layers then some (layerNotPresent layers)
  else if 0 < extensions then some (extensionNotPresent extensions)
  else none

/-- A native code as an outcome: anything but success is an error. -/
def check (code : ResultCode) : Except CallError Unit :=
  if code = .success then .ok () else .error (.native code)

end CallError

end VulkanBridge
