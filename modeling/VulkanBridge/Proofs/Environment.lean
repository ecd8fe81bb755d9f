import VulkanBridge.Proofs.Usage
/-!
# Environments

An `Environment` answers every request. Calls that are played in an environment are a use of the driver
(`reaches_session`), so the theorems about all uses can be tried on some. In the `obliging` environment all goes well.
-/

namespace VulkanBridge

/-- What answers requests. The number says how many exchanges there were before. -/
abbrev Environment := Nat → (request : Request) → request.Answer

namespace Program

variable {α : Type} (environment : Environment)

/-- The trace that a program leaves in an environment, and what it ends with. -/
def play : Program α → Nat → Trace × α
  | done value, _ => ([], value)
  | ask request next, number =>
    let played := (next (environment number request)).play (number + 1)
    (⟨request, environment number request⟩ :: played.1, played.2)

theorem runs_play (program : Program α) (number : Nat) :
    program.Runs (program.play environment number).1 (program.play environment number).2 := by
  induction program generalizing number with
  | done value => exact ⟨rfl, rfl⟩
  | ask request next ih => exact ⟨_, _, rfl, ih _ _⟩

end Program

section Session

variable (environment : Environment)

/-- A call in an environment, and the state it leads to. -/
def Call.play (call : Call) (number : Nat) (bridge : Bridge) : Event × Bridge :=
  let played := (call.run.run bridge).play environment number
  (⟨call, played.1, played.2.1⟩, played.2.2)

theorem Call.leads_play (call : Call) (number : Nat) (bridge : Bridge) :
    (call.play environment number bridge).1.Leads bridge (call.play environment number bridge).2 :=
  (call.run.run bridge).runs_play environment number

/-- The same, for an event and a state of which it is not known yet what they are. -/
theorem Call.exists_leads (call : Call) (number : Nat) (bridge : Bridge) :
    ∃ event after, event.Leads bridge after ∧ call.play environment number bridge = (event, after) :=
  ⟨_, _, call.leads_play environment number bridge, rfl⟩

/-- Calls in an environment, the latest first. -/
def session : List Call → List Event × Bridge
  | [] => ([], .initial)
  | call :: earlier =>
    let played := call.play environment (traceOf (session earlier).1).length (session earlier).2
    (played.1 :: (session earlier).1, played.2)

variable {Admits : List Event → Event → Prop}

/-- Each event is admitted after those before it. -/
def Admitted (Admits : List Event → Event → Prop) : List Event → Prop
  | [] => True
  | event :: history => Admits history event ∧ Admitted Admits history

instance decidableAdmitted [∀ history event, Decidable (Admits history event)] (history : List Event) :
    Decidable (Admitted Admits history) :=
  match history with
  | [] => isTrue trivial
  | event :: history =>
    have := decidableAdmitted history
    inferInstanceAs (Decidable (Admits history event ∧ Admitted Admits history))

/-- Calls that are admitted one after another are a use. -/
theorem reaches_session {calls : List Call} (h : Admitted Admits (session environment calls).1) :
    Reaches Admits (session environment calls).1 (session environment calls).2 := by
  induction calls with
  | nil => exact .initial
  | cons call earlier ih => exact .step (ih h.2) h.1 (call.leads_play environment _ _)

end Session

namespace Environment

/-- Memory for the exchange of a number. -/
def memory (number : Nat) : Address := ⟨4096 * (number + 1).toUInt64⟩

/-- Answers of a native driver that can do everything; what it creates is named by the number. -/
def obligingNative (number : Nat) : (call : NativeCall) → call.Answer
  | .createInstance .. | .createDevice .. | .createPool .. | .createFence .. => .ok (number + 1).toUInt64
  | .destroyInstance .. | .destroyDevice .. | .destroyPool .. | .destroyFence .. => ()
  | .countPhysicalDevices _ => .ok 1
  | .listPhysicalDevices _ capacity => .ok ⟨List.replicate capacity.toNat (number + 1).toUInt64, by simp⟩
  | .askPhysicalDevice _ query =>
    match query with
    | .features | .properties | .formatProperties _ => (0 : UInt32)
    | .memoryProperties => (⟨0, 0⟩ : MemoryHeaps)
    | .queueFamilies _ => (⟨none, []⟩ : QueueFamilyList)
  | .deviceQueue .. => (number + 1).toUInt64
  | .askDevice .. | .submit .. | .waitQueueIdle _ => ResultCode.success
  | .allocateCommandBuffers _ request => .ok (.ofFn fun i : Fin request.count.toNat => (number + 1 + i).toUInt64)
  | .freeCommandBuffers .. | .execute .. => ()
  | .command _ recorded =>
    match recorded with
    | .begin _ | .finish | .reset _ => ResultCode.success
    | .fillBuffer .. | .copyBuffer .. | .dispatch .. | .pipelineBarrier .. => ()

/-- An environment in which nothing fails and no configuration file exists. -/
def obliging : Environment
  | number, .callback call =>
    match call with
    | .allocate .. | .reallocate .. => some (memory number)
    | .free .. | .internalAllocation .. | .internalFree .. => ()
  | number, .systemAllocate _ => some (memory number)
  | _, .systemFree .. => ()
  | number, .native call => obligingNative number call
  | _, .instanceEntryPoint .. | _, .deviceEntryPoint .. => true
  | _, .openLibrary _ | _, .bootstrap _ => .ok ()
  | _, .readConfiguration => none
  | _, .notice _ => ()

end Environment

/-- Every action comes to an end, whatever it starts from. -/
theorem Action.exists_runs {α : Type} (action : Action α) (before : Bridge) :
    ∃ trace result after, action.Runs before trace result after :=
  ⟨_, _, _, (action.run before).runs_play .obliging 0⟩

/-! ## A sample -/

namespace Sample

/-- Callbacks that have all but notifications. -/
def callbacks (userData : UInt64) : CallbackSet := ⟨⟨userData⟩, some ⟨1⟩, some ⟨2⟩, some ⟨3⟩, none, none⟩

/-- Where the obliging environment puts the records of an instance, its physical device, a device and its queue. -/
def inst : Handle := ⟨⟨12288⟩, 0⟩

def physicalDevice : Handle := ⟨⟨81920⟩, 0⟩

def device : Handle := ⟨⟨94208⟩, 0⟩

def queue : Handle := ⟨⟨200704⟩, 0⟩

def pool : NativeHandle := 53

/-- An instance and a device with a queue, each with callbacks of its own; a pool that inherits those of the device, with
two command buffers of which one is freed; and a fence with callbacks of its own. -/
def calls : List Call :=
  [.createFence (some device) (some ⟨0⟩) (some (callbacks 3)),
   .freeCommandBuffers (some device) pool (.present [none, some ⟨⟨225280⟩, 0⟩]),
   .allocateCommandBuffers (some device) (some ⟨pool, 0, 2⟩),
   .createPool (some device) (some ⟨0, 0⟩) none,
   .createDevice (some physicalDevice) (some ⟨0, 0, .present [⟨0, 1⟩]⟩) (some (callbacks 2)) true,
   .enumeratePhysicalDevices (some inst) (some 1) true,
   .createInstance (some ⟨0, 0, 0⟩) (some (callbacks 1)) true]

/-- The events of these calls. -/
def history : List Event := (session .obliging calls).1

/-- The state that they lead to. -/
def bridge : Bridge := (session .obliging calls).2

/-- The same instance, device and pool, with forty command buffers. -/
def crowd : List Call := .allocateCommandBuffers (some device) (some ⟨pool, 0, 40⟩) :: calls.drop 3

/-- The state with forty command buffers. -/
def crowded : Bridge := (session .obliging crowd).2

/-- Where the obliging environment puts the records of the forty. -/
def member (number : Nat) : Handle := (Environment.memory (number + 54)).toHandle

end Sample

end VulkanBridge
