import VulkanBridge.Proofs.Effect
import VulkanBridge.Bridge
/-!
# Runs of actions

`Action.Runs` relates the state before an action to the trace it leaves, the result it ends with and the state
after it. The lemmas here take a run of a composed action apart (`runs_bind_iff` and its companions), down to the
requests themselves. Resolving a handle asks nothing of the outside but the log, and leaves the state alone
(`runs_resolve`).
-/

namespace VulkanBridge

namespace Program

variable {α : Type}

theorem runs_pure_iff {value result : α} {trace : Trace} :
    (pure value : Program α).Runs trace result ↔ trace = [] ∧ value = result := Iff.rfl

theorem runs_request_iff {request : Request} {trace : Trace} {result : request.Answer} :
    (Program.request request).Runs trace result ↔ trace = [⟨request, result⟩] := by
  simp only [Program.request, runs_ask_iff, runs_done_iff]
  constructor
  · rintro ⟨answer, rest, rfl, rfl, rfl⟩
    rfl
  · rintro rfl
    exact ⟨result, [], rfl, rfl, rfl⟩

theorem runs_native_iff {call : NativeCall} {trace : Trace} {result : call.Answer} :
    (Program.native call).Runs trace result ↔ trace = [.native call result] :=
  @runs_request_iff (.native call) trace result

theorem runs_notice_iff {notice : Notice} {trace : Trace} {result : Unit} :
    (Program.notice notice).Runs trace result ↔ trace = [⟨.notice notice, ()⟩] :=
  @runs_request_iff (.notice notice) trace result

/-- The answers of a trace determine the result. -/
theorem Runs.unique {program : Program α} {trace : Trace} {result result' : α} (h : program.Runs trace result)
    (h' : program.Runs trace result') : result = result' := by
  induction program generalizing trace with
  | done value => exact h.2.symm.trans h'.2
  | ask request next ih =>
    obtain ⟨answer, rest, rfl, h⟩ := h
    obtain ⟨answer', rest', heq, h'⟩ := h'
    obtain ⟨he, rfl⟩ := List.cons.inj heq
    cases he
    exact ih answer h h'

/-- A program that never has an effect. -/
def Idle (program : Program α) : Prop := ∀ trace result, program.Runs trace result → trace.Idle

theorem idle_pure (value : α) : (pure value : Program α).Idle := by
  rintro trace result ⟨rfl, -⟩
  exact Trace.idle_nil

theorem Idle.bind {β : Type} {program : Program α} {next : α → Program β} (hp : program.Idle)
    (hn : ∀ value, (next value).Idle) : (program >>= next).Idle := by
  intro trace result h
  obtain ⟨first, last, value, rfl, hf, hl⟩ := runs_bind_iff.1 h
  exact Trace.idle_append_iff.2 ⟨hp _ _ hf, hn value _ _ hl⟩

theorem idle_request {request : Request} (h : ∀ answer, Exchange.Plain ⟨request, answer⟩) :
    (Program.request request).Idle := by
  intro trace result ht
  rw [runs_request_iff] at ht
  subst ht
  exact Trace.idle_cons_iff.2 ⟨h result, Trace.idle_nil⟩

theorem idle_native {call : NativeCall} (h : ∀ answer, (Exchange.native call answer).isLifecycle = false) :
    (Program.native call).Idle :=
  @idle_request (.native call) fun answer => ⟨rfl, rfl, h answer, rfl⟩

theorem idle_notice {notice : Notice} (h : Exchange.isAlarm ⟨.notice notice, ()⟩ = false) :
    (Program.notice notice).Idle :=
  idle_request fun _ => ⟨rfl, rfl, rfl, h⟩

end Program

namespace Action

variable {α β : Type} {before after : Bridge} {trace : Trace}

/-- The action, answered as in the trace, asks for no more, ends with the result and leaves the state `after`. -/
def Runs (action : Action α) (before : Bridge) (trace : Trace) (result : α) (after : Bridge) : Prop :=
  (action.run before).Runs trace (result, after)

theorem runs_bind_iff {action : Action α} {next : α → Action β} {result : β} :
    Runs (action >>= next) before trace result after ↔
      ∃ first last value between,
        trace = first ++ last ∧ action.Runs before first value between ∧ (next value).Runs between last result after := by
  simp only [Runs, StateT.run_bind, Program.runs_bind_iff, Prod.exists]

theorem runs_pure_iff {value result : α} :
    Runs (pure value) before trace result after ↔ trace = [] ∧ value = result ∧ before = after := by
  simp only [Runs, StateT.run_pure, Program.runs_pure_iff, Prod.mk.injEq]

theorem runs_get_iff {result : Bridge} :
    Runs (get : Action Bridge) before trace result after ↔ trace = [] ∧ before = result ∧ before = after := by
  simp only [Runs, StateT.run_get, Program.runs_pure_iff, Prod.mk.injEq]

theorem runs_modify_iff {change : Bridge → Bridge} {result : PUnit} :
    Runs (modify change : Action PUnit) before trace result after ↔ trace = [] ∧ change before = after := by
  simp only [Runs, StateT.run_modify, Program.runs_pure_iff, Prod.mk.injEq, true_and]

theorem runs_lift_iff {program : Program α} {result : α} :
    Runs (program : Action α) before trace result after ↔ program.Runs trace result ∧ before = after := by
  simp only [Runs, StateT.run_monadLift, monadLift_self, Program.runs_bind_iff, Program.runs_pure_iff, Prod.mk.injEq]
  constructor
  · rintro ⟨first, last, value, rfl, h, rfl, rfl, rfl⟩
    rw [List.append_nil]
    exact ⟨h, rfl⟩
  · rintro ⟨h, rfl⟩
    exact ⟨trace, [], result, (List.append_nil trace).symm, h, rfl, rfl, rfl⟩

theorem runs_map_iff {action : Action α} {f : α → β} {result : β} :
    Runs (f <$> action) before trace result after ↔ ∃ value, action.Runs before trace value after ∧ f value = result := by
  rw [← bind_pure_comp]
  simp only [runs_bind_iff, runs_pure_iff]
  constructor
  · rintro ⟨first, last, value, between, rfl, h, rfl, rfl, rfl⟩
    exact ⟨value, (List.append_nil first).symm ▸ h, rfl⟩
  · rintro ⟨value, h, rfl⟩
    exact ⟨trace, [], value, after, (List.append_nil trace).symm, h, rfl, rfl, rfl⟩

/-- The answers of a trace determine the result and the state. -/
theorem Runs.unique {action : Action α} {result result' : α} {after' : Bridge} (h : action.Runs before trace result after)
    (h' : action.Runs before trace result' after') : result = result' ∧ after = after' :=
  Prod.mk.inj (Program.Runs.unique h h')

/-- An action that never has an effect, on the outside or on the state. -/
def Idle (action : Action α) : Prop :=
  ∀ before trace result after, action.Runs before trace result after → before = after ∧ trace.Idle

theorem idle_pure (value : α) : (pure value : Action α).Idle := by
  intro before trace result after h
  obtain ⟨rfl, -, rfl⟩ := runs_pure_iff.1 h
  exact ⟨rfl, Trace.idle_nil⟩

theorem Idle.bind {action : Action α} {next : α → Action β} (ha : action.Idle) (hn : ∀ value, (next value).Idle) :
    (action >>= next).Idle := by
  intro before trace result after h
  obtain ⟨first, last, value, between, rfl, hf, hl⟩ := runs_bind_iff.1 h
  obtain ⟨rfl, hf'⟩ := ha _ _ _ _ hf
  obtain ⟨rfl, hl'⟩ := hn value _ _ _ _ hl
  exact ⟨rfl, Trace.idle_append_iff.2 ⟨hf', hl'⟩⟩

theorem Idle.mapM {items : List β} {action : β → Action α} (h : ∀ item ∈ items, (action item).Idle) :
    (items.mapM action).Idle := by
  induction items with
  | nil =>
    rw [List.mapM_nil]
    exact idle_pure []
  | cons item rest ih =>
    obtain ⟨hitem, hrest⟩ := List.forall_mem_cons.1 h
    rw [List.mapM_cons]
    exact hitem.bind fun value => (ih hrest).bind fun values => idle_pure (value :: values)

theorem Idle.map {action : Action α} (ha : action.Idle) (f : α → β) : (f <$> action).Idle := by
  intro before trace result after h
  obtain ⟨value, h, -⟩ := runs_map_iff.1 h
  exact ha _ _ _ _ h

theorem idle_lift {program : Program α} (h : program.Idle) : Idle (program : Action α) := by
  intro before trace result after hr
  obtain ⟨hp, rfl⟩ := runs_lift_iff.1 hr
  exact ⟨rfl, h _ _ hp⟩

end Action

/-! ## Handles -/

namespace Trace

/-- There is nothing in the trace but notices. -/
def NoticesOnly (trace : Trace) : Prop := ∀ exchange ∈ trace, ∃ notice, exchange = ⟨.notice notice, ()⟩

theorem noticesOnly_nil : NoticesOnly [] := List.forall_mem_nil _

theorem noticesOnly_singleton (notice : Notice) : NoticesOnly [⟨.notice notice, ()⟩] := by
  intro exchange hm
  exact ⟨notice, List.mem_singleton.1 hm⟩

theorem NoticesOnly.append {first last : Trace} (hf : first.NoticesOnly) (hl : last.NoticesOnly) :
    (first ++ last).NoticesOnly :=
  fun exchange hm => (List.mem_append.1 hm).elim (hf exchange) (hl exchange)

end Trace

section Resolve

variable {kind : ObjectKind} {handle : Option Handle} {before after : Bridge} {trace : Trace}

/-- A handle is accepted as it is, without a word, or refused. -/
theorem runs_validate {result : Except CallError Handle} (h : (validate kind handle).Runs before trace result after) :
    before = after ∧ trace.Idle ∧
      ((∃ accepted, handle = some accepted ∧ result = .ok accepted ∧ trace = [] ∧
          (before.header? accepted).map (·.tag) = some kind.tag) ∨
        (result = .error (.invalidHandle kind.name) ∧
          ∀ accepted ∈ handle, (before.header? accepted).map (·.tag) ≠ some kind.tag)) := by
  unfold validate at h
  cases handle with
  | none =>
    simp only [Action.runs_bind_iff, Action.runs_lift_iff, Program.runs_notice_iff, Action.runs_pure_iff] at h
    obtain ⟨_, _, _, _, rfl, ⟨rfl, rfl⟩, rfl, rfl, rfl⟩ := h
    exact ⟨rfl, Trace.idle_cons_iff.2 ⟨⟨rfl, rfl, rfl, rfl⟩, Trace.idle_nil⟩, .inr ⟨rfl, nofun⟩⟩
  | some accepted =>
    simp only [Action.runs_bind_iff, Action.runs_get_iff] at h
    obtain ⟨_, _, _, _, rfl, ⟨rfl, rfl, rfl⟩, h⟩ := h
    split at h
    case isTrue ht =>
      obtain ⟨rfl, rfl, rfl⟩ := Action.runs_pure_iff.1 h
      exact ⟨rfl, Trace.idle_nil, .inl ⟨accepted, rfl, rfl, rfl, ht⟩⟩
    case isFalse ht =>
      simp only [Action.runs_bind_iff, Action.runs_lift_iff, Program.runs_notice_iff, Action.runs_pure_iff] at h
      obtain ⟨_, _, _, _, rfl, ⟨rfl, rfl⟩, rfl, rfl, rfl⟩ := h
      refine ⟨rfl, Trace.idle_cons_iff.2 ⟨⟨rfl, rfl, rfl, rfl⟩, Trace.idle_nil⟩, .inr ⟨rfl, ?_⟩⟩
      rintro _ ⟨rfl⟩
      exact ht

/-- A handle leads to its record, without a word, or is refused. -/
theorem runs_resolve {result : Except CallError (Handle × kind.Record)}
    (h : (resolve kind handle).Runs before trace result after) :
    before = after ∧ trace.Idle ∧
      ((∃ accepted record, handle = some accepted ∧ result = .ok (accepted, record) ∧ trace = [] ∧
          (before.header? accepted).map (·.tag) = some kind.tag ∧ before.record? kind accepted = some record) ∨
        (result = .error (.invalidHandle kind.name) ∧
          ∀ accepted ∈ handle, (before.header? accepted).map (·.tag) = some kind.tag →
            before.record? kind accepted = none)) := by
  unfold resolve at h
  rw [Action.runs_bind_iff] at h
  obtain ⟨first, last, value, between, rfl, hv, h⟩ := h
  obtain ⟨rfl, hi, ⟨accepted, rfl, rfl, rfl, ht⟩ | ⟨rfl, hn⟩⟩ := runs_validate hv
  · simp only [Action.runs_bind_iff, Action.runs_get_iff] at h
    obtain ⟨_, _, _, _, rfl, ⟨rfl, rfl, rfl⟩, h⟩ := h
    split at h
    case h_1 record hr =>
      obtain ⟨rfl, rfl, rfl⟩ := Action.runs_pure_iff.1 h
      exact ⟨rfl, Trace.idle_nil, .inl ⟨accepted, record, rfl, rfl, rfl, ht, hr⟩⟩
    case h_2 hr =>
      obtain ⟨rfl, rfl, rfl⟩ := Action.runs_pure_iff.1 h
      refine ⟨rfl, Trace.idle_nil, .inr ⟨rfl, ?_⟩⟩
      rintro _ ⟨rfl⟩ -
      exact hr
  · obtain ⟨rfl, rfl, rfl⟩ := Action.runs_pure_iff.1 h
    exact ⟨rfl, Trace.idle_append_iff.2 ⟨hi, Trace.idle_nil⟩, .inr ⟨rfl, fun accepted ha ht => (hn accepted ha ht).elim⟩⟩

/-- Nothing but the log is spoken to. -/
theorem notices_of_validate {result : Except CallError Handle} (h : (validate kind handle).Runs before trace result after) :
    trace.NoticesOnly := by
  unfold validate at h
  cases handle with
  | none =>
    simp only [Action.runs_bind_iff, Action.runs_lift_iff, Program.runs_notice_iff, Action.runs_pure_iff] at h
    obtain ⟨_, _, _, _, rfl, ⟨rfl, -⟩, rfl, -, -⟩ := h
    exact Trace.noticesOnly_singleton _
  | some accepted =>
    simp only [Action.runs_bind_iff, Action.runs_get_iff] at h
    obtain ⟨_, _, _, _, rfl, ⟨rfl, rfl, rfl⟩, h⟩ := h
    split at h
    · obtain ⟨rfl, -, -⟩ := Action.runs_pure_iff.1 h
      exact Trace.noticesOnly_nil
    · simp only [Action.runs_bind_iff, Action.runs_lift_iff, Program.runs_notice_iff, Action.runs_pure_iff] at h
      obtain ⟨_, _, _, _, rfl, ⟨rfl, -⟩, rfl, -, -⟩ := h
      exact Trace.noticesOnly_singleton _

theorem notices_of_resolve {result : Except CallError (Handle × kind.Record)}
    (h : (resolve kind handle).Runs before trace result after) : trace.NoticesOnly := by
  unfold resolve at h
  rw [Action.runs_bind_iff] at h
  obtain ⟨first, last, value, between, rfl, hv, h⟩ := h
  have hfirst := notices_of_validate hv
  have hlast : last = [] := by
    cases value with
    | error _ => exact (Action.runs_pure_iff.1 h).1
    | ok accepted =>
      simp only [Action.runs_bind_iff, Action.runs_get_iff] at h
      obtain ⟨_, _, _, _, rfl, ⟨rfl, rfl, rfl⟩, h⟩ := h
      split at h
      · exact (Action.runs_pure_iff.1 h).1
      · exact (Action.runs_pure_iff.1 h).1
  rwa [hlast, List.append_nil]

theorem idle_validate (kind : ObjectKind) (handle : Option Handle) : (validate kind handle).Idle :=
  fun _ _ _ _ h => ⟨(runs_validate h).1, (runs_validate h).2.1⟩

theorem idle_resolve (kind : ObjectKind) (handle : Option Handle) : (resolve kind handle).Idle :=
  fun _ _ _ _ h => ⟨(runs_resolve h).1, (runs_resolve h).2.1⟩

end Resolve

end VulkanBridge
