import VulkanBridge.Bridge
/-!
# Submissions to a queue

A list of submissions reaches the native queue with native handles in place of its command buffers. The new
list lies in one block of memory for the time of the call: the descriptions first, then the native handles.
No block is needed if there are no command buffers.
-/

namespace VulkanBridge.Submission

/-- The layout of the block for `count` submissions with `total` command buffers, and the offset of the
handles in it. -/
def blockLayout? (count total : UInt64) : Option (Layout × UInt64) := do
  let descriptions ← Layout.submission.array? count
  let handles ← Layout.nativeHandle.array? total
  descriptions.extend? handles

/-- The number of command buffers in a list of submissions. -/
def totalCommandBuffers {α : Type} (submissions : List (Submission α)) : UInt64 :=
  submissions.foldl (fun total submission => total + submission.commandBuffers.length.toUInt32.toUInt64) 0

/-! ## What is drafted in the block -/

/-- A description in the block: where its native handles begin among all, and how many they are. -/
structure Description where
  next : Extensions
  first : Nat
  count : Nat
  waits : List (NativeHandle × UInt32)
  signals : List NativeHandle

/-- The submission that the native driver reads where the native handles are these. -/
def Description.read (natives : Array NativeHandle) (description : Description) : Submission NativeHandle where
  next := description.next
  commandBuffers := (natives.extract description.first (description.first + description.count)).toList
  waits := description.waits
  signals := description.signals

/-- The two parts of the block: the descriptions so far, and the places for the native handles of all. -/
structure Draft where
  descriptions : Array Description
  natives : Array NativeHandle

namespace Draft

/-- Nothing is described yet. What is in the places does not matter. -/
def blank (total : UInt64) : Draft := ⟨#[], .replicate total.toNat 0⟩

/-- The submissions that the native driver reads in the block. -/
def read (draft : Draft) : List (Submission NativeHandle) :=
  draft.descriptions.toList.map fun description => description.read draft.natives

end Draft

/-- Write the native handles of command buffers from a place on, up to the first that is not one. -/
def writeNatives (natives : Array NativeHandle) (place : Nat) :
    List (Option Handle) → Action (Except CallError (Array NativeHandle))
  | [] => pure (.ok natives)
  | handle :: rest => do
    match ← resolve .commandBuffer handle with
    | .error error => pure (.error error)
    | .ok (_, commandBuffer) => writeNatives (natives.setIfInBounds place commandBuffer.native) (place + 1) rest

/-- Describe submissions one after another, with their native handles from the cursor on, up to the first command buffer
that is not one. -/
def describe (draft : Draft) (cursor : Nat) : List (Submission (Option Handle)) → Action (Except CallError Draft)
  | [] => pure (.ok draft)
  | submission :: rest => do
    let count := submission.commandBuffers.length
    match ← writeNatives draft.natives cursor submission.commandBuffers with
    | .error error => pure (.error error)
    | .ok natives =>
      let descriptions := draft.descriptions.push ⟨submission.next, cursor, count, submission.waits, submission.signals⟩
      describe ⟨descriptions, natives⟩ (cursor + count) rest

/-! ## Submitting -/

/-- Submit what is drafted in a block, and give the block back. -/
def submitDraft (queue : NativeHandle) (allocator : Allocator) (submissions : List (Submission (Option Handle)))
    (fence : NativeHandle) (layout : Layout) (block : Address) : Action (Except CallError ResultCode) := do
  match ← describe (.blank (totalCommandBuffers submissions)) 0 submissions with
  | .error error =>
    allocator.freeObject layout block
    pure (.error error)
  | .ok draft =>
    let result ← Native.submit queue draft.read fence
    allocator.freeObject layout block
    pure (.ok result)

/-- Submit to a native queue, with memory of the device's allocator. -/
def submitTo (queue : NativeHandle) (allocator : Allocator) (submissions : List (Submission (Option Handle)))
    (fence : NativeHandle) : Action (Except CallError ResultCode) := do
  let total := totalCommandBuffers submissions
  if total = 0 then
    let untouched := submissions.map fun submission => ⟨submission.next, [], submission.waits, submission.signals⟩
    .ok <$> Native.submit queue untouched fence
  else
    match blockLayout? submissions.length.toUInt64 total with
    | none => pure (.error .outOfHostMemory)
    | some (layout, _) =>
      match ← allocator.allocateObject layout .command with
      | .error error => pure (.error error)
      | .ok block => submitDraft queue allocator submissions fence layout block

/-- Submit work to a queue. -/
def submit (handle : Option Handle) (submissions : Span (Submission (Option Handle))) (fence : NativeHandle) :
    Action ResultCode := do
  match ← resolve .queue handle with
  | .error error => pure error.deviceResult
  | .ok (_, queue) =>
    match (← get).record? .device queue.device.toHandle with
    | none => pure .deviceLost
    | some device =>
      match ← submitTo queue.native device.allocator submissions.toList fence with
      | .ok result => pure result
      | .error error => pure error.deviceResult

end VulkanBridge.Submission
