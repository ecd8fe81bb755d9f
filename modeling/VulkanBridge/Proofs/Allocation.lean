import VulkanBridge.Proofs.Action
import VulkanBridge.Proofs.Layouts
import VulkanBridge.Memory.Allocation
/-!
# Effects of allocating

An allocation obtains one block or nothing, and giving a block back takes it out of the ledger. For the latter the
allocator has to have a way to free (`Allocator.HasFree`), and the measures have to be those of a block that exists
(`Layout.Sound`).
-/

namespace VulkanBridge

namespace Allocator

/-- What was obtained from the allocator can be given back to it. -/
def HasFree : Allocator → Prop
  | system => True
  | custom callbacks => callbacks.free.isSome

/-- What was obtained from the allocator can be given back to it, if every allocator is like that. -/
def Returns [Reckoning] (allocator : Allocator) : Prop := Reckoning.strict → allocator.HasFree

end Allocator

/-- What is obtained through the callbacks can be given back, if every allocator is like that. -/
def CallbackSet.Returns [Reckoning] (set : CallbackSet) : Prop := Reckoning.strict → set.free.isSome

namespace Allocator

variable {allocator : Allocator} {layout element : Layout} {scope : Scope} {trace : Trace} {length : UInt64}

/-- The ledger of one block. -/
abbrev granted (allocator : Allocator) (address : Address) (layout : Layout) : Ledger := {⟨address, allocator, layout⟩}

/-- The ledger of an array; an empty one owns no memory. -/
def grantedArray (allocator : Allocator) (element : Layout) (length : UInt64) : Option Address → Ledger
  | none => 0
  | some address => allocator.granted address (element.array length)

theorem grantedArray_some {address : Address} :
    allocator.grantedArray element length (some address) = allocator.granted address (element.array length) := rfl

/-- To merge callbacks once more changes nothing. -/
theorem merge_merge (explicit : Option CallbackSet) (parent : Allocator) :
    merge explicit (merge explicit parent) = merge explicit parent := by
  cases explicit with
  | none => rfl
  | some set => cases hi : set.internalAllocation <;> simp [merge, internal?, callbacks?, hi]

/-- An allocation gives nothing back. -/
theorem returned_of_allocate {size alignment : UInt64} {result : Option Address}
    (h : (allocator.allocate size alignment scope).Runs trace result) : ∀ exchange ∈ trace, exchange.returned? = none := by
  unfold allocate Callbacks.allocate at h
  split at h
  case h_1 =>
    split at h
    case h_1 =>
      obtain ⟨answer, rest, rfl, rfl, rfl⟩ := h
      simp [Exchange.returned?]
    case h_2 =>
      obtain ⟨rfl, rfl⟩ := h
      exact fun _ hm => absurd hm List.not_mem_nil
  case h_2 =>
    split at h
    case isTrue =>
      obtain ⟨rfl, rfl⟩ := h
      exact fun _ hm => absurd hm List.not_mem_nil
    case isFalse =>
      split at h
      case h_1 =>
        obtain ⟨answer, rest, rfl, rfl, rfl⟩ := h
        simp [Exchange.returned?]
      case h_2 =>
        obtain ⟨rfl, rfl⟩ := h
        exact fun _ hm => absurd hm List.not_mem_nil

theorem returned_of_allocateObject {result : Except CallError Address}
    (h : (allocator.allocateObject layout scope).Runs trace result) : ∀ exchange ∈ trace, exchange.returned? = none := by
  unfold allocateObject at h
  rw [Program.runs_bind_iff] at h
  obtain ⟨first, last, value, rfl, ha, h⟩ := h
  obtain rfl : last = [] := by
    cases value with
    | none => exact h.1
    | some address => exact h.1
  rw [List.append_nil]
  exact returned_of_allocate ha

variable [Reckoning]

theorem returns_system : system.Returns := fun _ => trivial

theorem returns_merge {explicit : Option CallbackSet} {parent : Allocator} (hp : parent.Returns)
    (he : ∀ set ∈ explicit, set.Returns) : (merge explicit parent).Returns := by
  cases explicit with
  | none => exact hp
  | some set => exact he set rfl

/-- An allocation obtains one block of these measures, or leaves everything as it was. -/
theorem runs_allocate {size alignment : UInt64} {result : Option Address}
    (h : (allocator.allocate size alignment scope).Runs trace result) :
    (∃ address, result = some address ∧ trace.Effect 0 [] (allocator.granted address ⟨size, alignment⟩)) ∨
      (result = none ∧ trace.Idle) := by
  unfold allocate at h
  cases allocator with
  | custom callbacks =>
    simp only [Callbacks.allocate] at h
    split at h
    case h_1 function hf =>
      obtain ⟨answer, rest, rfl, rfl, rfl⟩ := h
      cases answer with
      | none => exact .inr ⟨rfl, Trace.idle_cons_iff.2 ⟨⟨rfl, rfl, rfl, rfl⟩, Trace.idle_nil⟩⟩
      | some address =>
        refine .inl ⟨address, rfl, Trace.Settles.accounts ⟨_, .obtain ⟨callbacks, rfl, hf, rfl⟩, rfl⟩, rfl, ?_⟩
        intro exchange he
        rw [List.mem_singleton.1 he]
        rfl
    case h_2 =>
      obtain ⟨rfl, rfl⟩ := h
      exact .inr ⟨rfl, Trace.idle_nil⟩
  | system =>
    dsimp only at h
    split at h
    case isTrue =>
      obtain ⟨rfl, rfl⟩ := h
      exact .inr ⟨rfl, Trace.idle_nil⟩
    case isFalse =>
      split at h
      case h_1 layout hl =>
        obtain rfl := Layout.eq_of_ofSize? hl
        obtain ⟨answer, rest, rfl, rfl, rfl⟩ := h
        cases answer with
        | none => exact .inr ⟨rfl, Trace.idle_cons_iff.2 ⟨⟨rfl, rfl, rfl, rfl⟩, Trace.idle_nil⟩⟩
        | some address =>
          refine .inl ⟨address, rfl, Trace.Settles.accounts ⟨_, .obtain rfl, rfl⟩, rfl, ?_⟩
          intro exchange he
          rw [List.mem_singleton.1 he]
          rfl
      case h_2 =>
        obtain ⟨rfl, rfl⟩ := h
        exact .inr ⟨rfl, Trace.idle_nil⟩

/-- A block goes back to the allocator that gave it, if that has a way to free. -/
theorem runs_free {address : Address} {result : Unit} (hf : allocator.Returns) (hl : layout.Sound)
    (h : (allocator.free (some address) layout.size layout.alignment).Runs trace result) :
    trace.Effect (allocator.granted address layout) [] 0 := by
  unfold free at h
  cases allocator with
  | custom callbacks =>
    cases hfree : callbacks.free with
    | none =>
      -- The block stays with the allocator for good.
      simp only [Callbacks.release, hfree] at h
      obtain ⟨rfl, -⟩ := h
      refine ⟨⟨_, (Multiset.zero_add _).symm, fun hs => ?_⟩, rfl, by simp [Trace.Quiet]⟩
      have := hf hs
      simp [HasFree, hfree] at this
    | some function =>
      simp only [Callbacks.release, hfree] at h
      obtain ⟨answer, rest, rfl, rfl, -⟩ := h
      refine ⟨Trace.Settles.accounts ⟨_, .giveBack ⟨callbacks, layout, rfl, hfree, rfl⟩, rfl⟩, rfl, ?_⟩
      intro exchange he
      rw [List.mem_singleton.1 he]
      rfl
  | system =>
    simp only [hl.2] at h
    obtain ⟨answer, rest, rfl, rfl, -⟩ := h
    refine ⟨Trace.Settles.accounts ⟨_, .giveBack rfl, rfl⟩, rfl, ?_⟩
    intro exchange he
    rw [List.mem_singleton.1 he]
    rfl

theorem runs_allocateObject {result : Except CallError Address}
    (h : (allocator.allocateObject layout scope).Runs trace result) :
    (∃ address, result = .ok address ∧ trace.Effect 0 [] (allocator.granted address layout)) ∨
      (result = .error .outOfHostMemory ∧ trace.Idle) := by
  unfold allocateObject at h
  rw [Program.runs_bind_iff] at h
  obtain ⟨first, last, value, rfl, ha, h⟩ := h
  obtain ⟨address, rfl, he⟩ | ⟨rfl, hi⟩ := runs_allocate ha
  · obtain ⟨rfl, rfl⟩ := h
    exact .inl ⟨address, rfl, he.before_idle Trace.idle_nil⟩
  · obtain ⟨rfl, rfl⟩ := h
    exact .inr ⟨rfl, Trace.idle_append_iff.2 ⟨hi, Trace.idle_nil⟩⟩

theorem runs_freeObject {address : Address} {result : Unit} (hf : allocator.Returns) (hl : layout.Sound)
    (h : (allocator.freeObject layout address).Runs trace result) :
    trace.Effect (allocator.granted address layout) [] 0 :=
  runs_free hf hl h

theorem runs_allocateElements {result : Except CallError Address}
    (h : (allocator.allocateElements element length scope).Runs trace result) :
    (∃ address, result = .ok address ∧ trace.Effect 0 [] (allocator.granted address (element.array length))) ∨
      (result = .error .outOfHostMemory ∧ trace.Idle) := by
  unfold allocateElements at h
  split at h
  case h_1 =>
    obtain ⟨rfl, rfl⟩ := h
    exact .inr ⟨rfl, Trace.idle_nil⟩
  case h_2 layout hl =>
    rw [Layout.array_of_array? hl] at h
    exact runs_allocateObject h

theorem effect_of_allocateElements {address : Address}
    (h : (allocator.allocateElements element length scope).Runs trace (.ok address)) :
    trace.Effect 0 [] (allocator.granted address (element.array length)) := by
  obtain ⟨_, ⟨rfl⟩, he⟩ | ⟨he, -⟩ := runs_allocateElements h
  · exact he
  · cases he

theorem idle_of_allocateElements {error : CallError}
    (h : (allocator.allocateElements element length scope).Runs trace (.error error)) : trace.Idle := by
  obtain ⟨_, he, -⟩ | ⟨-, hi⟩ := runs_allocateElements h
  · cases he
  · exact hi

/-- An array is obtained with its length, none if it is empty. -/
theorem runs_allocateArray {result : Except CallError (Option Address)}
    (h : (allocator.allocateArray element length scope).Runs trace result) :
    (∃ block, result = .ok block ∧ (block.isSome ↔ length ≠ 0) ∧
        trace.Effect 0 [] (allocator.grantedArray element length block)) ∨
      (result = .error .outOfHostMemory ∧ trace.Idle) := by
  unfold allocateArray at h
  split at h
  case isTrue hz =>
    obtain ⟨rfl, rfl⟩ := h
    exact .inl ⟨none, rfl, by simp [hz], .nil 0⟩
  case isFalse hz =>
    rw [Program.runs_bind_iff] at h
    obtain ⟨first, last, value, rfl, ha, h⟩ := h
    obtain ⟨address, rfl, he⟩ | ⟨rfl, hi⟩ := runs_allocateElements ha
    · obtain ⟨rfl, rfl⟩ := h
      exact .inl ⟨some address, rfl, by simp [hz], he.before_idle Trace.idle_nil⟩
    · obtain ⟨rfl, rfl⟩ := h
      exact .inr ⟨rfl, Trace.idle_append_iff.2 ⟨hi, Trace.idle_nil⟩⟩

theorem runs_freeArray {block : Option Address} {result : Unit} (hf : allocator.Returns) (he : element.Small)
    (hl : length.toNat < 2 ^ 32) (hb : block.isSome → length ≠ 0)
    (h : (allocator.freeArray element length block).Runs trace result) :
    trace.Effect (allocator.grantedArray element length block) [] 0 := by
  unfold freeArray at h
  cases block with
  | none =>
    have : trace = [] := by
      split at h
      · exact h.1
      · rw [he.array? hl] at h
        exact h.1
    exact this ▸ .nil 0
  | some address =>
    have hz := hb rfl
    rw [if_neg hz, he.array? hl] at h
    exact runs_free hf (he.array_sound hz hl) h

end Allocator

/-! ## Notifications -/

/-- Whoever is told is told once, with their own user data. -/
theorem Callbacks.runs_notify_iff {callbacks : Callbacks} {function : InternalNotifications → Option FunctionPointer}
    {call : FunctionPointer → UserData → CallbackCall} {found : Option (FunctionPointer × UserData)} {trace : Trace}
    {result : Unit} (h : (callbacks.internal.bind fun told => (function told).map (·, told.userData)) = found) :
    (callbacks.notify function call).Runs trace result ↔
      found.elim (trace = []) fun (function, userData) => ∃ answer, trace = [⟨.callback (call function userData), answer⟩] := by
  rw [notify, h]
  cases found with
  | none => exact and_iff_left rfl
  | some found =>
    constructor
    · rintro ⟨answer, rest, rfl, rfl, -⟩
      exact ⟨answer, rfl⟩
    · rintro ⟨answer, rfl⟩
      exact ⟨answer, [], rfl, rfl, rfl⟩

end VulkanBridge
