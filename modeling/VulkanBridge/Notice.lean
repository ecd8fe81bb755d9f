import VulkanBridge.Config
import VulkanBridge.Error
import VulkanBridge.Object.Handle
/-!
# Notices

What the driver tells its log. A notice is data; `Notice.level` and `Notice.text` give its line. The text
shows native handles in hexadecimal; how a record's own address is shown is left to the reader.
-/

namespace VulkanBridge

inductive Level where
  | error
  | warning
  | info
  | debug
  | trace
  deriving DecidableEq

/-- The word that a line begins with. -/
def Level.name : Level → String
  | error => "ERROR"
  | warning => "WARN"
  | info => "INFO"
  | debug => "DEBUG"
  | trace => "TRACE"

inductive Notice where
  | initialized (config : Config)
  | staticEntryUsed
  | libraryLoaded (name : String)
  | libraryLoadFailed (name reason : String)
  | libraryNotFound (reason : String)
  | bootstrapUnresolved (reason : String)
  | entryPointMissing (name : String)
  | instanceLeaked (native : NativeHandle)
  | deviceLeaked (native : NativeHandle)
  | deviceCreated (native : NativeHandle) (families : Nat)
  | createFailed (function : String) (cause : CallError)
  | nullHandle (kind : ObjectKind)
  | wrongHandle (handle : Handle) (kind : ObjectKind)
  | releaseUnregistered (handle : UInt64)
  | entriesLeaked (count : Nat)
  | unknownPool (pool : NativeHandle)
  | poolUnregistered (commandBuffer : Handle)
  | commandBuffersLeft (count : Nat)
  | queueNotRequested (family index : UInt32)
  | invalidSecondary (index : Nat)
  deriving DecidableEq

namespace Notice

def level : Notice → Level
  | nullHandle _ | wrongHandle .. => .error
  | libraryNotFound _ | bootstrapUnresolved _ | entryPointMissing _ | instanceLeaked _ | deviceLeaked _
  | releaseUnregistered _ | entriesLeaked _ | unknownPool _ | poolUnregistered _ | queueNotRequested ..
  | invalidSecondary _ => .warning
  | libraryLoaded _ => .info
  | initialized _ | staticEntryUsed | libraryLoadFailed .. | deviceCreated .. | commandBuffersLeft _ => .debug
  | createFailed .. => .trace

/-- A number in lower-case hexadecimal after its mark. -/
def hex (n : UInt64) : String := "0x" ++ Text.hexDigits n.toNat

/-- The message; counts stand at its end under their names. -/
def text (showAddress : Handle → String) : Notice → String
  | initialized config => "vkshim initialized config=" ++ config.describe
  | staticEntryUsed => "using static native entry point"
  | libraryLoaded name => "loaded native Vulkan library from: " ++ name ++ " (" ++ Platform.name ++ ")"
  | libraryLoadFailed name reason => "failed to load " ++ name ++ ": " ++ reason
  | libraryNotFound reason => "native Vulkan library not found (" ++ reason ++ ")"
  | bootstrapUnresolved reason => "could not resolve vkGetInstanceProcAddr: " ++ reason
  | entryPointMissing name => "native library does not provide " ++ name
  | instanceLeaked native => "leaking native instance " ++ hex native ++ ": vkDestroyInstance missing"
  | deviceLeaked native => "leaking native device " ++ hex native ++ ": vkDestroyDevice missing"
  | deviceCreated native families => "created device " ++ hex native ++ s!" with {families} queue families"
  | createFailed function cause => function ++ " failed: " ++ cause.message
  | nullHandle kind => "null " ++ kind.name ++ " handle"
  | wrongHandle handle kind => showAddress handle ++ " is not a " ++ kind.name ++ " handle"
  | releaseUnregistered handle => "release of unregistered handle " ++ hex handle
  | entriesLeaked count => s!"freeing leaked allocator registry entries count={count}"
  | unknownPool pool => "vkAllocateCommandBuffers: unknown command pool " ++ hex pool
  | poolUnregistered handle => "command buffer " ++ showAddress handle ++ " has no registered pool"
  | commandBuffersLeft count => s!"freeing command buffers still allocated at device destruction count={count}"
  | queueNotRequested family index => s!"no queue {index} in family {family} was requested at device creation"
  | invalidSecondary index => s!"vkCmdExecuteCommands: invalid secondary at index {index}, nothing recorded"

/-- The line of a notice. -/
def line (showAddress : Handle → String) (notice : Notice) : String :=
  notice.level.name ++ " " ++ notice.text showAddress

end Notice

end VulkanBridge
