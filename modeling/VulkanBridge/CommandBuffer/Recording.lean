import VulkanBridge.CommandBuffer.Allocation
/-!
# Recording

Commands to a command buffer go to the native command buffer behind it, unchanged. Executing secondary
command buffers takes their native handles, a batch at a time, and records nothing at all unless every one of them
is valid.
-/

namespace VulkanBridge

/-- What a command answers when its command buffer is not one. -/
def Command.refusal (error : CallError) : (command : Command) → command.Answer
  | begin _ | finish | reset _ => error.deviceResult
  | fillBuffer .. | copyBuffer .. | dispatch .. | pipelineBarrier .. => ()

namespace CommandBuffer

/-- Give a command to a command buffer. -/
def record (handle : Option Handle) (command : Command) : Action command.Answer := do
  match ← resolve .commandBuffer handle with
  | .error error => pure (command.refusal error)
  | .ok (_, commandBuffer) => Native.record commandBuffer.native command

/-- The place of the first of these handles that is not one of a command buffer; `index` is the place of the first
of them all. -/
def firstInvalid? (index : Nat) : List (Option Handle) → Action (Option Nat)
  | [] => pure none
  | handle :: rest => do
    match ← validate .commandBuffer handle with
    | .error _ => pure (some index)
    | .ok _ => firstInvalid? (index + 1) rest

/-- The native handle of a secondary command buffer, null if it is not one. -/
def nativeOf (handle : Option Handle) : Action NativeHandle := do
  match ← resolve .commandBuffer handle with
  | .error _ => pure 0
  | .ok (_, commandBuffer) => pure commandBuffer.native

/-- Have a native command buffer execute batches of others, with room for the native handles of one batch. -/
def executeBatches (native : NativeHandle) (natives : Vector NativeHandle Platform.batchSize) :
    List (List (Option Handle)) → Action Unit
  | [] => pure ()
  | batch :: rest => do
    let noted ← noteAll nativeOf Vector.setIfInBounds natives 0 batch
    Native.execute native (noted.extract 0 batch.length).toList
    executeBatches native noted rest

/-- Have a command buffer execute others. They are all looked at before the first batch is sent. -/
def execute (handle : Option Handle) (secondaries : Span (Option Handle)) : Action Unit := do
  match ← resolve .commandBuffer handle with
  | .error _ => pure ()
  | .ok (_, commandBuffer) =>
    match ← firstInvalid? 0 secondaries.toList with
    | some index => Program.notice (.invalidSecondary index)
    | none => executeBatches commandBuffer.native (.replicate _ 0) (batches Platform.batchSize secondaries.toList)

end CommandBuffer

end VulkanBridge
