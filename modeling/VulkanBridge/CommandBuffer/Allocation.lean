import VulkanBridge.Batches
import VulkanBridge.CommandBuffer.Release
/-!
# Allocating and freeing command buffers

Command buffers come from a pool, as many at a time as the caller asks for. Each gets a record of its own
from the pool's allocator, and each holds a reference to the pool's registry entry. Either all records of a
request are made or none: when memory runs out, those made so far go, and all the native command buffers of
the request. The caller's array is all the room there is for this: native handles are replaced by those of the
records one by one, and put back from the records if they have to go.

Lists of command buffers reach the native driver in batches. What the entries of a batch stand for is noted in two
arrays with room for one batch, which are the same for all batches of a call.
-/

namespace VulkanBridge

namespace CommandBuffer

/-- The record of a new command buffer. -/
def new (device : Address) (pool native : NativeHandle) : CommandBuffer := ⟨.new .commandBuffer, device, pool, native⟩

/-- Make a record for a native command buffer. The device gains it as a live command buffer, unless memory
runs out. -/
def wrap (owner : Address) (device : Device) (pool : NativeHandle) (allocator : Allocator) (native : NativeHandle) :
    Action (Device × Except CallError Address) := do
  match ← device.pools.register pool allocator .object with
  | .error error => pure (device, .error error)
  | .ok pools =>
    match ← allocator.allocateObject .commandBuffer .object with
    | .ok address =>
      modify (·.put address (.commandBuffer (new owner pool native)))
      pure ({ device with pools, commandBuffers := device.commandBuffers.insert (pool, address) }, .ok address)
    | .error error =>
      let pools ← pools.release pool
      pure ({ device with pools }, .error error)

/-- Give up the records of command buffers, one after another. -/
def unwrapAll (device : Device) (pool : NativeHandle) : List Address → Action Device
  | [] => pure device
  | address :: rest => do
    let pools ← free device.pools address
    unwrapAll { device with pools, commandBuffers := device.commandBuffers.erase (pool, address) } pool rest

/-- Give up records that were made for a request that cannot be completed. The native handles in them take
their places again. -/
def restoreAll (device : Device) (pool : NativeHandle) : List Address → Action (Device × List NativeHandle)
  | [] => pure (device, [])
  | address :: rest => do
    let native := ((← get).record? .commandBuffer address.toHandle).elim 0 (·.native)
    let pools ← free device.pools address
    let device := { device with pools, commandBuffers := device.commandBuffers.erase (pool, address) }
    let (device, natives) ← restoreAll device pool rest
    pure (device, native :: natives)

/-- Make records for the remaining native command buffers of a request; `made` are those made before. With the
error comes what is in the places of the request once no record is left. -/
def wrapAll (owner : Address) (pool : NativeHandle) (allocator : Allocator) (device : Device) (made : List Address) :
    List NativeHandle → Action (Device × Except (CallError × List NativeHandle) (List Address))
  | [] => pure (device, .ok made)
  | native :: rest => do
    match ← wrap owner device pool allocator native with
    | (device, .ok address) => wrapAll owner pool allocator device (made ++ [address]) rest
    | (device, .error error) => do
      let (device, restored) ← restoreAll device pool made
      pure (device, .error (error, restored ++ (native :: rest)))

/-- Allocate command buffers from a pool. The second result is what is stored in the caller's array: the
new handles, nulls if memory ran out, and nothing at all if the request failed before. -/
def allocate (handle : Option Handle) (request : Option CommandBufferRequest) :
    Action (ResultCode × Option (List (Option Handle))) := do
  match request with
  | none => pure (.initializationFailed, none)
  | some request =>
    match ← resolve .device handle with
    | .error error => pure (error.deviceResult, none)
    | .ok (handle, device) =>
      match device.pools.get? request.pool with
      | none =>
        Program.notice (.unknownPool request.pool)
        pure ((CallError.invalidHandle "command pool").deviceResult, none)
      | some allocator =>
        match ← Native.allocateCommandBuffers device.native request with
        | .error code => pure (code.val, none)
        | .ok natives =>
          let (device, outcome) ← wrapAll handle.block request.pool allocator device [] natives.toList
          modify (·.put handle.block (.device device))
          match outcome with
          | .ok addresses => pure (.success, some (addresses.map fun address => some address.toHandle))
          | .error (error, restored) =>
            Native.freeCommandBuffers device.native request.pool restored
            pure (error.deviceResult, some (natives.toList.map fun _ => none))

/-- What an entry of a list of command buffers stands for: a record, or nothing if it is null or a handle of
another kind. -/
def resolveEntry (handle : Option Handle) : Action (Option (Address × NativeHandle)) := do
  match handle with
  | none => pure none
  | some handle =>
    match ← resolve .commandBuffer (some handle) with
    | .error _ => pure none
    | .ok (handle, record) => pure (some (handle.block, record.native))

/-- Room for the records and the native handles of one batch. -/
structure Scratch where
  records : Vector (Option Address) Platform.batchSize
  natives : Vector NativeHandle Platform.batchSize

namespace Scratch

/-- Nothing is noted yet. -/
def blank : Scratch := ⟨.replicate _ none, .replicate _ 0⟩

/-- Note what an entry stands for. -/
def write (scratch : Scratch) (place : Nat) (entry : Option (Address × NativeHandle)) : Scratch where
  records := scratch.records.setIfInBounds place (entry.map (·.1))
  natives := scratch.natives.setIfInBounds place (entry.elim 0 (·.2))

/-- Take the records out of the first places. -/
def takeRecords (scratch : Scratch) (count : Nat) : List Address × Scratch :=
  ((scratch.records.extract 0 count).toList.filterMap id,
    { scratch with records := scratch.records.mapIdx fun place record => if place < count then none else record })

end Scratch

/-- Free the command buffers of one batch. The native driver reads as many places as the batch has entries. -/
def freeBatch (device : Device) (pool : NativeHandle) (scratch : Scratch) (batch : List (Option Handle)) :
    Action (Device × Scratch) := do
  let noted ← noteAll resolveEntry Scratch.write scratch 0 batch
  Native.freeCommandBuffers device.native pool (noted.natives.extract 0 batch.length).toList
  let (records, scratch) := noted.takeRecords batch.length
  let device ← unwrapAll device pool records
  pure (device, scratch)

/-- Free the command buffers of batches, one batch after another. -/
def freeBatches (device : Device) (pool : NativeHandle) (scratch : Scratch) : List (List (Option Handle)) → Action Device
  | [] => pure device
  | batch :: rest => do
    let (device, scratch) ← freeBatch device pool scratch batch
    freeBatches device pool scratch rest

/-- Free a list of command buffers of a pool. Entries that are null or of another kind are passed over. -/
def freeList (handle : Option Handle) (pool : NativeHandle) (commandBuffers : Span (Option Handle)) : Action Unit := do
  match commandBuffers.toList with
  | [] => pure ()
  | handles =>
    match ← resolve .device handle with
    | .error _ => pure ()
    | .ok (handle, device) =>
      let device ← freeBatches device pool .blank (batches Platform.batchSize handles)
      modify (·.put handle.block (.device device))

end CommandBuffer

end VulkanBridge
