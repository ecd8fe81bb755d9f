import VulkanBridge.Bridge
/-!
# Queues

A device comes with the records of all queues it was asked for, so that looking one up never fails for want
of memory: one array of families, and per family one array of queues. If memory runs out while they are
built, what was built goes again.
-/

namespace VulkanBridge

namespace Queue

/-- The record of a new queue. -/
def new (device : Address) (native : NativeHandle) : Queue := ⟨.new .queue, device, native⟩

/-- The records of the first `count` queues of a family, asked of the native device in order. -/
def obtainAll (device : Address) (native : NativeHandle) (family count : UInt32) : Program (Array Queue) := do
  let queues ← (List.range count.toNat).mapM fun index => Native.deviceQueue native family index.toUInt32
  pure (queues.map (new device)).toArray

end Queue

/-- A family with the records of its queues. -/
structure BuiltFamily where
  family : QueueFamily
  queues : Array Queue

namespace QueueFamily

/-- Give the queue records of families back, in order. -/
def freeQueues (allocator : Allocator) : List QueueFamily → Program Unit
  | [] => pure ()
  | family :: families => do
    allocator.freeArray .queue family.count.toUInt64 family.queues
    freeQueues allocator families

/-- Give the queue records of families and then the array of the families back. -/
def freeAll (allocator : Allocator) (block : Option Address) (families : List QueueFamily) (count : UInt64) :
    Program Unit := do
  freeQueues allocator families
  allocator.freeArray .queueFamily count block

/-- Build the remaining families; `built` are those before them. If memory runs out, the queues built so
far go, then the array of the families. -/
def buildRest (allocator : Allocator) (device : Address) (native : NativeHandle) (block : Option Address)
    (count : UInt64) (built : List BuiltFamily) : List QueueRequest → Program (Except CallError (List BuiltFamily))
  | [] => pure (.ok built)
  | request :: requests => do
    match ← allocator.allocateArray .queue request.count.toUInt64 .device with
    | .error error =>
      freeAll allocator block (built.map (·.family)) count
      pure (.error error)
    | .ok queues =>
      let records ← Queue.obtainAll device native request.family request.count
      buildRest allocator device native block count
        (built ++ [⟨⟨request.family, request.count, queues⟩, records⟩]) requests

/-- Build the families that a device is created with, and the block of their array. -/
def build (allocator : Allocator) (device : Address) (native : NativeHandle) (requests : List QueueRequest) :
    Program (Except CallError (Option Address × List BuiltFamily)) := do
  let count := requests.length.toUInt64
  match ← allocator.allocateArray .queueFamily count .device with
  | .error error => pure (.error error)
  | .ok block =>
    match ← buildRest allocator device native block count [] requests with
    | .error error => pure (.error error)
    | .ok built => pure (.ok (block, built))

end QueueFamily

namespace Device

/-- The record of a queue that the device was created with. The first family with the index counts. -/
def queue? (device : Device) (family index : UInt32) : Option Handle := do
  let found ← device.families.find? (·.index = family)
  if index < found.count then found.queues.map (⟨·, index.toNat⟩) else none

/-- Look a queue up. What is stored for the caller is null if there is no such queue; nothing is stored if
there is no place for it (`output`). -/
def getQueue (handle : Option Handle) (family index : UInt32) (output : Bool) : Action (Option (Option Handle)) := do
  if !output then pure none
  else
    match ← resolve .device handle with
    | .error _ => pure (some none)
    | .ok (_, device) =>
      match device.queue? family index with
      | some queue => pure (some (some queue))
      | none =>
        Program.notice (.queueNotRequested family index)
        pure (some none)

end Device

namespace Queue

/-- Wait until a queue is idle. -/
def waitIdle (handle : Option Handle) : Action ResultCode := do
  match ← resolve .queue handle with
  | .error error => pure error.deviceResult
  | .ok (_, queue) => Native.waitQueueIdle queue.native

end Queue

end VulkanBridge
