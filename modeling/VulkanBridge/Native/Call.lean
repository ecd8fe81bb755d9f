import VulkanBridge.Object.Handle
import VulkanBridge.Result
/-!
# Calls to the native driver

`NativeCall` lists what the driver behind this one can be asked for, and `NativeCall.Answer` is the type of its
answer. A creation answers a handle or a code other than success, and a list asked for with a capacity answers at
most so many entries.

Commands, submissions and requests come with every argument. Of the infos that objects are created with, some things
are left out, which travel behind the caller's own pointer and are looked at by nobody here: the extensions of all
these infos, what an instance says of its application, the names of layers and extensions, the flags and features of
a device, and the flags and priorities of its queues. Left out everywhere is the word by which a record says what
kind of record it is, as it is the same for all records of a kind.
-/

namespace VulkanBridge

/-- A count with an array of so many items, whose pointer may be null. -/
inductive Span (α : Type) where
  | absent (count : UInt32)
  | present (items : List α)
  deriving DecidableEq

namespace Span

/-- The items; a null array has none. -/
def toList : Span α → List α
  | absent _ => []
  | present items => items

/-- The count as passed. -/
def count : Span α → UInt32
  | absent count => count
  | present items => items.length.toUInt32

end Span

/-- The pointer of a record to its extensions, or null. It is handed on as it is, and nothing behind it is looked at. -/
abbrev Extensions := Option Address

/-- How a caller asks for a list whose length it may not know. -/
inductive ListQuery where
  /-- The pointer to the count is null. -/
  | unasked
  /-- Only the count is wanted. -/
  | count
  /-- As many entries as there is room for. -/
  | entries (capacity : UInt32)
  deriving DecidableEq

structure InstanceInfo where
  flags : UInt32
  layers : UInt32
  extensions : UInt32
  deriving DecidableEq

/-- Queues of one family that a device is created with. -/
structure QueueRequest where
  family : UInt32
  count : UInt32
  deriving DecidableEq

structure DeviceInfo where
  layers : UInt32
  extensions : UInt32
  queues : Span QueueRequest

structure PoolInfo where
  flags : UInt32
  family : UInt32
  deriving DecidableEq

structure FenceInfo where
  flags : UInt32
  deriving DecidableEq

/-- Command buffers to allocate from a pool. -/
structure CommandBufferRequest where
  pool : NativeHandle
  level : Int32
  count : UInt32
  deriving DecidableEq

/-- One batch of a submission to a queue. -/
structure Submission (CommandBuffer : Type) where
  next : Extensions
  commandBuffers : List CommandBuffer
  /-- Semaphores to wait for, each with the stages that wait. -/
  waits : List (NativeHandle × UInt32)
  signals : List NativeHandle
  deriving DecidableEq

/-! ## Questions about a physical device -/

structure MemoryHeaps where
  count : UInt32
  firstSize : UInt64
  deriving DecidableEq

/-- What is written where a list of queue families was asked for. -/
structure QueueFamilyList where
  count : Option UInt32
  queueCounts : List UInt32
  deriving DecidableEq

inductive PhysicalDeviceQuery where
  | features
  | properties
  | memoryProperties
  | formatProperties (format : Int32)
  | queueFamilies (query : ListQuery)
  deriving DecidableEq

/-- The part of each answer that is looked at: a feature, the device's number, its memory heaps, the
features of buffers of a format, and the queues of each family. -/
def PhysicalDeviceQuery.Answer : PhysicalDeviceQuery → Type
  | features | properties | formatProperties _ => UInt32
  | memoryProperties => MemoryHeaps
  | queueFamilies _ => QueueFamilyList

/-! ## Requests to a device that answer with a code only -/

inductive DeviceRequest where
  | waitIdle
  | resetPool (pool : NativeHandle) (flags : UInt32)
  | waitForFences (fences : Span NativeHandle) (waitAll : UInt32) (timeout : UInt64)
  | resetFences (fences : Span NativeHandle)
  | fenceStatus (fence : NativeHandle)
  deriving DecidableEq

/-! ## Commands to a command buffer -/

/-- What a secondary command buffer takes over from the primary that executes it. -/
structure InheritanceInfo where
  next : Extensions
  renderPass : NativeHandle
  subpass : UInt32
  framebuffer : NativeHandle
  occlusionQuery : UInt32
  queryFlags : UInt32
  statistics : UInt32
  deriving DecidableEq

structure BeginInfo where
  next : Extensions
  flags : UInt32
  inheritance : Option InheritanceInfo
  deriving DecidableEq

structure BufferCopy where
  sourceOffset : UInt64
  targetOffset : UInt64
  size : UInt64
  deriving DecidableEq

structure MemoryBarrier where
  next : Extensions
  sourceAccess : UInt32
  targetAccess : UInt32
  deriving DecidableEq

structure BufferBarrier where
  next : Extensions
  sourceAccess : UInt32
  targetAccess : UInt32
  sourceFamily : UInt32
  targetFamily : UInt32
  buffer : NativeHandle
  offset : UInt64
  size : UInt64
  deriving DecidableEq

/-- Some aspects, mip levels and array layers of an image. -/
structure SubresourceRange where
  aspects : UInt32
  firstLevel : UInt32
  levels : UInt32
  firstLayer : UInt32
  layers : UInt32
  deriving DecidableEq

structure ImageBarrier where
  next : Extensions
  sourceAccess : UInt32
  targetAccess : UInt32
  oldLayout : Int32
  newLayout : Int32
  sourceFamily : UInt32
  targetFamily : UInt32
  image : NativeHandle
  range : SubresourceRange
  deriving DecidableEq

/-- Commands that name no other command buffer. -/
inductive Command where
  | begin (info : Option BeginInfo)
  | finish
  | reset (flags : UInt32)
  | fillBuffer (buffer : NativeHandle) (offset size : UInt64) (data : UInt32)
  | copyBuffer (source target : NativeHandle) (regions : Span BufferCopy)
  | dispatch (x y z : UInt32)
  | pipelineBarrier (sourceStages targetStages dependency : UInt32) (memory : Span MemoryBarrier)
      (buffers : Span BufferBarrier) (images : Span ImageBarrier)
  deriving DecidableEq

/-- Beginning, ending and resetting answer with a code, recording answers nothing. -/
def Command.Answer : Command → Type
  | begin _ | finish | reset _ => ResultCode
  | _ => Unit

/-! ## All calls -/

inductive NativeCall where
  | createInstance (flags : UInt32) (callbacks : Option NativeCallbacks)
  | destroyInstance (inst : NativeHandle) (callbacks : Option NativeCallbacks)
  | countPhysicalDevices (inst : NativeHandle)
  | listPhysicalDevices (inst : NativeHandle) (capacity : UInt32)
  | askPhysicalDevice (physicalDevice : NativeHandle) (query : PhysicalDeviceQuery)
  | createDevice (physicalDevice : NativeHandle) (info : DeviceInfo) (callbacks : Option NativeCallbacks)
  | destroyDevice (device : NativeHandle) (callbacks : Option NativeCallbacks)
  | deviceQueue (device : NativeHandle) (family index : UInt32)
  | askDevice (device : NativeHandle) (request : DeviceRequest)
  | createPool (device : NativeHandle) (info : Option PoolInfo) (callbacks : Option NativeCallbacks)
  | destroyPool (device pool : NativeHandle) (callbacks : Option NativeCallbacks)
  | allocateCommandBuffers (device : NativeHandle) (request : CommandBufferRequest)
  | freeCommandBuffers (device pool : NativeHandle) (commandBuffers : List NativeHandle)
  | command (commandBuffer : NativeHandle) (recorded : Command)
  | execute (commandBuffer : NativeHandle) (secondaries : List NativeHandle)
  | submit (queue : NativeHandle) (submissions : List (Submission NativeHandle)) (fence : NativeHandle)
  | waitQueueIdle (queue : NativeHandle)
  | createFence (device : NativeHandle) (info : Option FenceInfo) (callbacks : Option NativeCallbacks)
  | destroyFence (device fence : NativeHandle) (callbacks : Option NativeCallbacks)

namespace NativeCall

/-- The type of a call's answer. -/
def Answer : NativeCall → Type
  | createInstance .. | createDevice .. | createPool .. | createFence .. => Except FailureCode NativeHandle
  | destroyInstance .. | destroyDevice .. | destroyPool .. | destroyFence .. => Unit
  | countPhysicalDevices _ => Except FailureCode UInt32
  | listPhysicalDevices _ capacity =>
    Except FailureCode { handles : List NativeHandle // handles.length ≤ capacity.toNat }
  | askPhysicalDevice _ query => query.Answer
  | deviceQueue .. => NativeHandle
  | askDevice .. => ResultCode
  | allocateCommandBuffers _ request => Except FailureCode (Vector NativeHandle request.count.toNat)
  | freeCommandBuffers .. => Unit
  | command _ recorded => recorded.Answer
  | execute .. => Unit
  | submit .. => ResultCode
  | waitQueueIdle _ => ResultCode

end NativeCall

/-! ## Names to resolve -/

/-- The entry point by which a native library is entered. -/
def bootstrapName : String := "vkGetInstanceProcAddr"

/-- Entry points needed before there is an instance. -/
def globalNames : List String := ["vkCreateInstance"]

/-- Entry points needed of every native instance. -/
def instanceNames : List String :=
  ["vkDestroyInstance", "vkEnumeratePhysicalDevices", "vkGetPhysicalDeviceFeatures", "vkGetPhysicalDeviceProperties",
   "vkGetPhysicalDeviceQueueFamilyProperties", "vkGetPhysicalDeviceMemoryProperties",
   "vkGetPhysicalDeviceFormatProperties", "vkCreateDevice", "vkGetDeviceProcAddr"]

/-- Entry points needed of every native device. -/
def deviceNames : List String :=
  ["vkDestroyDevice", "vkGetDeviceQueue", "vkDeviceWaitIdle", "vkQueueSubmit", "vkQueueWaitIdle",
   "vkCreateCommandPool", "vkDestroyCommandPool", "vkResetCommandPool", "vkAllocateCommandBuffers",
   "vkFreeCommandBuffers", "vkBeginCommandBuffer", "vkEndCommandBuffer", "vkResetCommandBuffer",
   "vkCmdExecuteCommands", "vkCmdFillBuffer", "vkCmdCopyBuffer", "vkCmdDispatch", "vkCmdPipelineBarrier",
   "vkCreateFence", "vkDestroyFence", "vkWaitForFences", "vkResetFences", "vkGetFenceStatus"]

end VulkanBridge
