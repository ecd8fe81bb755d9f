import VulkanBridge.Proofs.Allocation
import VulkanBridge.Proofs.Contents
/-!
# What registries hold

A registry holds one block per key, of the allocator it records for the key (`Registry.owned`), and counts
references (`Registry.references`). Each operation is taken apart into what it does to the entries
(`runs_insert`, `runs_register`, `runs_release`), and each change of the entries into what it does to the recorded
allocators, the counts and the blocks.
-/

namespace VulkanBridge.Registry

/-- The block of an entry. -/
def Entry.grant (entry : Entry) : Grant := ⟨entry.address, entry.allocator, .registryEntry⟩

/-- The block of an entry that waits for its handle. -/
def Pending.grant (pending : Pending) : Grant := ⟨pending.address, pending.allocator, .registryEntry⟩

/-- The blocks of all entries. -/
def owned (registry : Registry) : Ledger := (contents registry.entries).map fun entry => entry.2.grant

/-- The block of a handle's entry. -/
def grant? (registry : Registry) (handle : UInt64) : Option Grant := registry.entries[handle]?.map Entry.grant

/-- The references to a handle, none if it is unknown. -/
def references (registry : Registry) (handle : UInt64) : Nat :=
  registry.entries[handle]?.elim 0 (·.references.toNat)

/-- The registry with a new entry for a handle. -/
def record (registry : Registry) (handle : UInt64) (pending : Pending) : Registry :=
  ⟨registry.entries.insert handle ⟨pending.allocator, 1, pending.address⟩⟩

/-- The registry with one reference less to an entry that keeps others. -/
def yield (registry : Registry) (handle : UInt64) (entry : Entry) : Registry :=
  ⟨registry.entries.insert handle { entry with references := entry.references - 1 }⟩

/-- The registry without a handle. -/
def forget (registry : Registry) (handle : UInt64) : Registry := ⟨registry.entries.erase handle⟩

variable {registry result : Registry} {handle other : UInt64} {entry : Entry} {pending : Pending}
  {allocator : Allocator} {scope : Scope} {trace : Trace}

/-! ## Entries after a change -/

theorem entries_retain (h : other ≠ handle) : (registry.retain handle entry).entries[other]? = registry.entries[other]? :=
  getElem?_insert_ne h

theorem entries_retain_self :
    (registry.retain handle entry).entries[handle]? = some { entry with references := entry.references + 1 } :=
  getElem?_insert_self

theorem entries_record (h : other ≠ handle) :
    (registry.record handle pending).entries[other]? = registry.entries[other]? :=
  getElem?_insert_ne h

theorem entries_record_self :
    (registry.record handle pending).entries[handle]? = some ⟨pending.allocator, 1, pending.address⟩ :=
  getElem?_insert_self

theorem entries_yield (h : other ≠ handle) : (registry.yield handle entry).entries[other]? = registry.entries[other]? :=
  getElem?_insert_ne h

theorem entries_yield_self :
    (registry.yield handle entry).entries[handle]? = some { entry with references := entry.references - 1 } :=
  getElem?_insert_self

theorem entries_forget (h : other ≠ handle) : (registry.forget handle).entries[other]? = registry.entries[other]? :=
  getElem?_erase_ne h

theorem entries_forget_self : (registry.forget handle).entries[handle]? = none := getElem?_erase_self

/-! ## Blocks after a change -/

@[simp] theorem owned_empty : empty.owned = 0 := by simp [owned, empty]

/-- The block of one entry, and the others. -/
theorem owned_forget (h : registry.entries[handle]? = some entry) :
    registry.owned = entry.grant ::ₘ (registry.forget handle).owned := by
  rw [owned, contents_erase h, Multiset.map_cons]
  rfl

theorem owned_record (h : registry.entries[handle]? = none) :
    (registry.record handle pending).owned = pending.grant ::ₘ registry.owned := by
  rw [owned, record, contents_insert _ h, Multiset.map_cons]
  rfl

theorem owned_retain (h : registry.entries[handle]? = some entry) :
    (registry.retain handle entry).owned = registry.owned := by
  rw [owned, retain, contents_replace, Multiset.map_cons, owned_forget h]
  rfl

theorem owned_yield (h : registry.entries[handle]? = some entry) : (registry.yield handle entry).owned = registry.owned := by
  rw [owned, yield, contents_replace, Multiset.map_cons, owned_forget h]
  rfl

/-! ## The entry of a handle after a change -/

theorem grant?_of_some (h : registry.entries[handle]? = some entry) : registry.grant? handle = some entry.grant := by
  rw [grant?, h, Option.map_some]

/-- The recorded allocator is that of the entry's block. -/
theorem get?_eq (registry : Registry) (handle : UInt64) : registry.get? handle = (registry.grant? handle).map (·.allocator) := by
  rw [get?, grant?, Option.map_map]
  rfl

theorem get?_eq_some_iff : registry.get? handle = some allocator ↔
    ∃ entry, registry.entries[handle]? = some entry ∧ entry.allocator = allocator := Option.map_eq_some_iff

theorem get?_congr (h : result.grant? handle = registry.grant? handle) : result.get? handle = registry.get? handle := by
  rw [get?_eq, get?_eq, h]

theorem contains_iff : registry.contains handle ↔ ∃ entry, registry.entries[handle]? = some entry := by
  rw [contains, Std.ExtTreeMap.contains_eq_isSome_getElem?, Option.isSome_iff_exists]

theorem references?_eq_some_iff {count : UInt32} :
    registry.references? handle = some count ↔ ∃ entry, registry.entries[handle]? = some entry ∧ entry.references = count :=
  Option.map_eq_some_iff

theorem grant?_eq_none_iff : registry.grant? handle = none ↔ registry.entries[handle]? = none := Option.map_eq_none_iff

theorem contains_eq_false_iff : registry.contains handle = false ↔ registry.entries[handle]? = none := by
  rw [Bool.eq_false_iff, Ne, contains_iff, ← Option.ne_none_iff_exists', not_not]

theorem contains_iff_grant? : registry.contains handle ↔ registry.grant? handle ≠ none := by
  rw [contains_iff, Ne, grant?_eq_none_iff, ← Ne, Option.ne_none_iff_exists']

theorem grant?_retain (h : registry.entries[handle]? = some entry) (other : UInt64) :
    (registry.retain handle entry).grant? other = registry.grant? other := by
  by_cases he : other = handle
  · subst he
    rw [grant?_of_some entries_retain_self, grant?_of_some h]
    rfl
  · rw [grant?, entries_retain he, grant?]

theorem grant?_yield (h : registry.entries[handle]? = some entry) (other : UInt64) :
    (registry.yield handle entry).grant? other = registry.grant? other := by
  by_cases he : other = handle
  · subst he
    rw [grant?_of_some entries_yield_self, grant?_of_some h]
    rfl
  · rw [grant?, entries_yield he, grant?]

theorem grant?_record (h : other ≠ handle) : (registry.record handle pending).grant? other = registry.grant? other := by
  rw [grant?, entries_record h, grant?]

theorem grant?_record_self : (registry.record handle pending).grant? handle = some pending.grant :=
  grant?_of_some entries_record_self

theorem grant?_forget (h : other ≠ handle) : (registry.forget handle).grant? other = registry.grant? other := by
  rw [grant?, entries_forget h, grant?]

theorem mem_owned_of_grant? {grant : Grant} (h : registry.grant? handle = some grant) : grant ∈ registry.owned := by
  obtain ⟨entry, he, rfl⟩ := Option.map_eq_some_iff.1 h
  rw [owned_forget he]
  exact Multiset.mem_cons_self ..

/-! ## References after a change -/

theorem references_of_some (h : registry.entries[handle]? = some entry) :
    registry.references handle = entry.references.toNat := by
  simp [references, h]

theorem references_of_none (h : registry.entries[handle]? = none) : registry.references handle = 0 := by
  simp [references, h]

theorem references_congr (h : result.entries[handle]? = registry.entries[handle]?) :
    result.references handle = registry.references handle := by
  rw [references, references, h]

theorem references_retain_self (h : registry.entries[handle]? = some entry) (hl : registry.references handle + 1 < 2 ^ 32) :
    (registry.retain handle entry).references handle = registry.references handle + 1 := by
  rw [references_of_some h] at hl ⊢
  rw [references_of_some entries_retain_self]
  simp only [UInt32.toNat_add, UInt32.toNat_one]
  omega

theorem references_retain (h : registry.entries[handle]? = some entry) (hl : registry.references handle + 1 < 2 ^ 32)
    (other : UInt64) : (registry.retain handle entry).references other =
      registry.references other + if handle = other then 1 else 0 := by
  by_cases heq : handle = other
  · subst heq
    rw [if_pos rfl, references_retain_self h hl]
  · rw [if_neg heq, references_congr (entries_retain (Ne.symm heq)), Nat.add_zero]

theorem references_record : (registry.record handle pending).references handle = 1 :=
  references_of_some entries_record_self

theorem references_yield_self (h : registry.entries[handle]? = some entry) (hr : entry.references ≠ 0) :
    (registry.yield handle entry).references handle + 1 = registry.references handle := by
  have : entry.references.toNat ≠ 0 := fun he => hr (UInt32.toNat_inj.1 he)
  have : (1 : UInt32) ≤ entry.references := by
    rw [UInt32.le_iff_toNat_le, UInt32.toNat_one]
    omega
  rw [references_of_some h, references_of_some entries_yield_self]
  simp only [UInt32.toNat_sub_of_le _ _ this, UInt32.toNat_one]
  omega

theorem references_yield (h : registry.entries[handle]? = some entry) (hr : entry.references ≠ 0) (other : UInt64) :
    (registry.yield handle entry).references other + (if handle = other then 1 else 0) = registry.references other := by
  by_cases heq : handle = other
  · subst heq
    rw [if_pos rfl, references_yield_self h hr]
  · rw [if_neg heq, references_congr (entries_yield (Ne.symm heq)), Nat.add_zero]

/-- A reference that is given up at once leaves no trace. -/
theorem yield_retain (h : registry.entries[handle]? = some entry) :
    (registry.retain handle entry).yield handle { entry with references := entry.references + 1 } = registry := by
  obtain ⟨entries⟩ := registry
  refine congrArg Registry.mk (Std.ExtTreeMap.ext_getElem? fun other => ?_)
  by_cases heq : other = handle
  · subst heq
    rw [getElem?_insert_self, UInt32.add_sub_cancel]
    exact h.symm
  · rw [getElem?_insert_ne heq]
    exact getElem?_insert_ne heq

/-! ## Runs of the operations -/

theorem sound_registryEntry : Layout.registryEntry.Sound := by decide

/-- An entry that is given up goes back to its allocator's free callback, if it has one. -/
theorem runs_discard_custom {callbacks : Callbacks} {value : Unit} (ha : pending.allocator = .custom callbacks)
    (h : (discard pending).Runs trace value) :
    (callbacks.free.isSome ∧ ∃ exchange ∈ trace, exchange.returned? = some pending.address) ∨
      (callbacks.free = none ∧ trace = []) := by
  unfold discard freeEntry Allocator.freeObject Allocator.free at h
  rw [ha] at h
  dsimp only at h
  unfold Callbacks.release at h
  split at h
  case h_1 function hf =>
    obtain ⟨answer, rest, rfl, -⟩ := h
    exact .inl ⟨by rw [hf]; rfl, _, List.mem_cons_self .., rfl⟩
  case h_2 hf =>
    obtain ⟨rfl, -⟩ := h
    exact .inr ⟨hf, rfl⟩

/-- An unknown handle gets the entry, a known one a reference, and the entry is given up. -/
theorem runs_insert (h : (registry.insert handle pending).Runs trace result) :
    (registry.entries[handle]? = none ∧ result = registry.record handle pending ∧ trace = []) ∨
      ∃ entry, registry.entries[handle]? = some entry ∧ result = registry.retain handle entry ∧
        (discard pending).Runs trace () := by
  unfold insert at h
  split at h
  case h_1 entry he =>
    rw [Program.runs_bind_iff] at h
    obtain ⟨first, last, done, rfl, hd, rfl, rfl⟩ := h
    exact .inr ⟨entry, he, rfl, (List.append_nil first).symm ▸ hd⟩
  case h_2 he =>
    obtain ⟨rfl, rfl⟩ := h
    exact .inl ⟨he, rfl, rfl⟩

/-- A known handle gets a reference and nothing is asked for. -/
theorem runs_register_known {outcome : Except CallError Registry} (he : registry.entries[handle]? = some entry)
    (h : (registry.register handle allocator scope).Runs trace outcome) :
    outcome = .ok (registry.retain handle entry) ∧ trace = [] := by
  unfold register at h
  simp only [he] at h
  exact ⟨h.2.symm, h.1⟩

/-- One reference less; the entry goes with the last one. -/
theorem runs_release (h : (registry.release handle).Runs trace result) :
    (registry.entries[handle]? = none ∧ result = registry ∧ trace = [⟨.notice (.releaseUnregistered handle), ()⟩]) ∨
      ∃ entry, registry.entries[handle]? = some entry ∧
        ((entry.references = 1 ∧ result = registry.forget handle ∧
            (freeEntry entry.allocator entry.address).Runs trace ()) ∨
          (entry.references ≠ 1 ∧ result = registry.yield handle entry ∧ trace = [])) := by
  unfold release at h
  split at h
  case h_1 he =>
    rw [Program.runs_bind_iff] at h
    obtain ⟨first, last, done, rfl, hn, rfl, rfl⟩ := h
    rw [Program.runs_notice_iff] at hn
    exact .inl ⟨he, rfl, by rw [hn]; rfl⟩
  case h_2 entry he =>
    refine .inr ⟨entry, he, ?_⟩
    dsimp only at h
    have one : entry.references - 1 = 0 ↔ entry.references = 1 := by
      constructor
      · intro hz
        rw [← UInt32.sub_add_cancel entry.references 1, hz]
        rfl
      · rintro hz
        rw [hz]
        rfl
    split at h
    case isTrue hz =>
      rw [Program.runs_bind_iff] at h
      obtain ⟨first, last, done, rfl, hd, rfl, rfl⟩ := h
      exact .inl ⟨one.1 hz, rfl, (List.append_nil first).symm ▸ hd⟩
    case isFalse hz =>
      obtain ⟨rfl, rfl⟩ := h
      exact .inr ⟨fun he => hz (one.2 he), rfl, rfl⟩

/-- A reference to a known handle that is given up at once. -/
theorem runs_release_retained (he : registry.entries[handle]? = some entry) (hr : entry.references ≠ 0)
    (h : ((registry.retain handle entry).release handle).Runs trace result) : result = registry ∧ trace = [] := by
  have hself : (registry.retain handle entry).entries[handle]? = _ := entries_retain_self
  have hone : entry.references + 1 ≠ 1 := by
    intro heq
    refine hr ?_
    rw [← UInt32.add_sub_cancel entry.references 1, heq]
    rfl
  obtain ⟨hnone, -, -⟩ | ⟨found, hfound, hend⟩ := runs_release h
  · rw [hself] at hnone
    cases hnone
  · obtain rfl := Option.some.inj (hself.symm.trans hfound)
    obtain ⟨heq, -, -⟩ | ⟨-, rfl, rfl⟩ := hend
    · exact (hone heq).elim
    · exact ⟨yield_retain he, rfl⟩

/-! ## Soundness after a change -/

variable [Reckoning]

/-- Each entry is referred to, and lies in memory that can be given back. -/
def Sound (registry : Registry) : Prop :=
  ∀ (handle : UInt64) (entry : Entry),
    registry.entries[handle]? = some entry → entry.references ≠ 0 ∧ entry.allocator.Returns

/-- The handles with an entry are those with a reference. -/
theorem Sound.references_eq_zero_iff (h : registry.Sound) :
    registry.references handle = 0 ↔ registry.entries[handle]? = none := by
  cases hf : registry.entries[handle]? with
  | none => simp [references_of_none hf]
  | some entry =>
    rw [references_of_some hf]
    have := (h handle entry hf).1
    constructor
    · intro hz
      exact absurd (UInt32.toNat_inj.1 hz) this
    · exact nofun

theorem sound_empty : empty.Sound := by
  intro handle entry h
  simp [empty] at h

theorem Sound.record (h : registry.Sound) (hf : pending.allocator.Returns) : (registry.record handle pending).Sound := by
  intro other found he
  by_cases hh : other = handle
  · subst hh
    rw [entries_record_self] at he
    obtain rfl := Option.some.inj he
    exact ⟨(by decide : (1 : UInt32) ≠ 0), hf⟩
  · rw [entries_record hh] at he
    exact h other found he

theorem Sound.retain (h : registry.Sound) (he : registry.entries[handle]? = some entry)
    (hl : registry.references handle + 1 < 2 ^ 32) : (registry.retain handle entry).Sound := by
  intro other found hf
  by_cases hh : other = handle
  · subst hh
    have hr := references_retain_self he hl
    rw [references_of_some hf] at hr
    rw [entries_retain_self] at hf
    obtain rfl := Option.some.inj hf
    refine ⟨fun hz => ?_, (h other entry he).2⟩
    rw [hz] at hr
    exact absurd hr (by simp)
  · rw [entries_retain hh] at hf
    exact h other found hf

theorem Sound.forget (h : registry.Sound) : (registry.forget handle).Sound := by
  intro other found hf
  by_cases hh : other = handle
  · subst hh
    rw [entries_forget_self] at hf
    cases hf
  · rw [entries_forget hh] at hf
    exact h other found hf

theorem Sound.yield (h : registry.Sound) (he : registry.entries[handle]? = some entry) (hr : entry.references ≠ 1) :
    (registry.yield handle entry).Sound := by
  intro other found hf
  by_cases hh : other = handle
  · subst hh
    rw [entries_yield_self] at hf
    obtain rfl := Option.some.inj hf
    refine ⟨fun hz => hr ?_, (h other entry he).2⟩
    have hz : entry.references - 1 = 0 := hz
    rw [← UInt32.sub_add_cancel entry.references 1, hz]
    rfl
  · rw [entries_yield hh] at hf
    exact h other found hf

/-! ## Effects of the operations -/

theorem runs_prepare {outcome : Except CallError Pending} (h : (prepare allocator scope).Runs trace outcome) :
    (∃ pending, outcome = .ok pending ∧ pending.allocator = allocator ∧ trace.Effect 0 [] {pending.grant} ∧
        ∀ exchange ∈ trace, exchange.returned? = none) ∨
      (outcome = .error .outOfHostMemory ∧ trace.Idle) := by
  unfold prepare at h
  rw [Program.runs_bind_iff] at h
  obtain ⟨first, last, value, rfl, ha, h⟩ := h
  obtain ⟨address, rfl, he⟩ | ⟨rfl, hi⟩ := Allocator.runs_allocateObject ha
  · obtain ⟨rfl, rfl⟩ := h
    refine .inl ⟨⟨allocator, address⟩, rfl, rfl, he.before_idle Trace.idle_nil, ?_⟩
    rw [List.append_nil]
    exact Allocator.returned_of_allocateObject ha
  · obtain ⟨rfl, rfl⟩ := h
    exact .inr ⟨rfl, Trace.idle_append_iff.2 ⟨hi, Trace.idle_nil⟩⟩

theorem runs_freeEntry {entry : Entry} {value : Unit} (hf : entry.allocator.Returns)
    (h : (freeEntry entry.allocator entry.address).Runs trace value) : trace.Effect {entry.grant} [] 0 :=
  Allocator.runs_freeObject hf sound_registryEntry h

theorem runs_discard {value : Unit} (hf : pending.allocator.Returns) (h : (discard pending).Runs trace value) :
    trace.Effect {pending.grant} [] 0 :=
  Allocator.runs_freeObject hf sound_registryEntry h

/-- What putting an entry under its handle comes to: the handle has one reference more, every entry there was is still
there, and either the new entry joins them or its block is given back. -/
structure Inserts (registry : Registry) (handle : UInt64) (pending : Pending) (trace : Trace) (result : Registry) :
    Prop where
  sound : result.Sound
  references : ∀ other, result.references other = registry.references other + if handle = other then 1 else 0
  others : ∀ other, other ≠ handle → result.grant? other = registry.grant? other
  known : ∀ grant, registry.grant? handle = some grant →
    result.grant? handle = some grant ∧ result.owned = registry.owned ∧ trace.Effect {pending.grant} [] 0
  discarded : registry.grant? handle ≠ none → (discard pending).Runs trace ()
  unknown : registry.grant? handle = none →
    result.grant? handle = some pending.grant ∧ result.owned = {pending.grant} + registry.owned ∧ trace = []

theorem insert_inserts (hs : registry.Sound) (hf : pending.allocator.Returns)
    (hl : registry.references handle + 1 < 2 ^ 32) (h : (registry.insert handle pending).Runs trace result) :
    registry.Inserts handle pending trace result := by
  obtain ⟨hnone, rfl, rfl⟩ | ⟨entry, he, rfl, hd⟩ := runs_insert h
  · refine ⟨hs.record hf, fun other => ?_, fun other hne => grant?_record hne, fun grant hg => ?_,
      fun hk => (hk (grant?_eq_none_iff.2 hnone)).elim, fun _ => ?_⟩
    · by_cases heq : handle = other
      · subst heq
        rw [if_pos rfl, references_record, references_of_none hnone]
      · rw [if_neg heq, references_congr (entries_record (Ne.symm heq)), Nat.add_zero]
    · rw [grant?_eq_none_iff.2 hnone] at hg
      cases hg
    · exact ⟨grant?_record_self, by rw [owned_record hnone, Multiset.singleton_add], rfl⟩
  · refine ⟨hs.retain he hl, references_retain he hl, fun other _ => grant?_retain he other, fun grant hg => ?_, fun _ => hd,
      fun hnone => ?_⟩
    · exact ⟨by rw [grant?_retain he, hg], owned_retain he, runs_discard hf hd⟩
    · rw [grant?_of_some he] at hnone
      cases hnone

/-- The two steps of registering a native object: an entry is obtained, then the object is created, and the entry is
put under the object's handle. -/
def Registers (registry : Registry) (pending : Pending) (create : Exchange) (handle : UInt64) (trace : Trace)
    (result : Registry) : Prop :=
  ∃ first last : Trace, trace = first ++ create :: last ∧ first.Effect 0 [] {pending.grant} ∧
    (∀ exchange ∈ first, exchange.returned? = none) ∧ registry.Inserts handle pending last result

theorem Registers.effect {call : NativeCall} {answer : call.Answer}
    (h : registry.Registers pending (.native call answer) handle trace result)
    (hc : (Exchange.native call answer).isLifecycle = true) :
    trace.Effect registry.owned [.native call answer] result.owned := by
  obtain ⟨first, last, rfl, hf, -, hi⟩ := h
  have hfirst := (Trace.Effect.nil registry.owned).obtain_more hf
  have hlast : Trace.Effect (registry.owned + {pending.grant}) last [] result.owned := by
    cases hg : registry.grant? handle with
    | none =>
      obtain ⟨-, ho, rfl⟩ := hi.unknown hg
      rw [ho, Multiset.add_comm]
      exact .nil _
    | some grant =>
      obtain ⟨-, ho, he⟩ := hi.known grant hg
      rw [ho]
      exact (Trace.Effect.nil _).give_back he
  exact hfirst.append ((Trace.Effect.native hc _).append hlast)

/-- Registering obtains and gives back nothing but its own entry. -/
theorem Registers.spares {call : NativeCall} {answer : call.Answer} {places : List Address} {others : Ledger}
    (h : registry.Registers pending (.native call answer) handle trace result) (ho : others.Occupies places)
    (hf : trace.Fresh places) {grant : Grant} (hg : grant ∈ others) :
    ∀ exchange ∈ trace, exchange.returned? ≠ some grant.address := by
  obtain ⟨first, last, rfl, hfirst, -, hi⟩ := h
  rw [← Multiset.zero_add others] at ho
  obtain ⟨hf₁, hf₂⟩ := Trace.fresh_append_iff.1 hf
  have ho₁ := (hfirst.frame others).accounts.occupies ho hf₁
  intro exchange hm
  obtain hm | hm := List.mem_append.1 hm
  · exact hfirst.accounts.spares ho hf₁ hg exchange hm
  obtain rfl | hm := List.mem_cons.1 hm
  · exact nofun
  cases hk : registry.grant? handle with
  | none =>
    obtain ⟨-, -, rfl⟩ := hi.unknown hk
    exact absurd hm List.not_mem_nil
  | some known =>
    obtain ⟨-, -, he⟩ := hi.known known hk
    exact he.accounts.spares (Exchange.Settles.occupies (.still rfl rfl) ho₁ hf₂.1) hf₂.2 hg exchange hm

/-- What giving up a reference comes to: the handle has one less, and its block is given back with the last one. -/
structure Releases (registry : Registry) (handle : UInt64) (trace : Trace) (result : Registry) : Prop where
  sound : result.Sound
  references : ∀ other, result.references other + (if handle = other then 1 else 0) = registry.references other
  others : ∀ other, other ≠ handle → result.grant? other = registry.grant? other
  kept : result.references handle ≠ 0 → result.grant? handle = registry.grant? handle ∧
    result.owned = registry.owned ∧ trace = []
  gone : result.references handle = 0 → result.grant? handle = none ∧
    ∃ grant, registry.grant? handle = some grant ∧ registry.owned = {grant} + result.owned ∧ trace.Effect {grant} [] 0

theorem release_releases (hs : registry.Sound) (hk : registry.grant? handle ≠ none)
    (h : (registry.release handle).Runs trace result) : registry.Releases handle trace result := by
  obtain ⟨hnone, -, -⟩ | ⟨entry, he, ⟨hone, rfl, hd⟩ | ⟨hone, rfl, rfl⟩⟩ := runs_release h
  · exact (hk (grant?_eq_none_iff.2 hnone)).elim
  · have hz : (registry.forget handle).references handle = 0 := references_of_none entries_forget_self
    refine ⟨hs.forget, fun other => ?_, fun other hne => grant?_forget hne, fun hn => (hn hz).elim, fun _ => ?_⟩
    · by_cases heq : handle = other
      · subst heq
        rw [if_pos rfl, hz, references_of_some he, hone]
        rfl
      · rw [if_neg heq, references_congr (entries_forget (Ne.symm heq)), Nat.add_zero]
    · refine ⟨grant?_eq_none_iff.2 entries_forget_self, entry.grant, grant?_of_some he, ?_, runs_freeEntry (hs _ _ he).2 hd⟩
      rw [owned_forget he, Multiset.singleton_add]
  · have hsound := hs.yield he hone
    refine ⟨hsound, references_yield he (hs _ _ he).1, fun other _ => grant?_yield he other, fun _ => ?_, fun hz => ?_⟩
    · exact ⟨grant?_yield he handle, owned_yield he, rfl⟩
    · rw [hsound.references_eq_zero_iff, entries_yield_self] at hz
      cases hz

theorem Releases.effect (h : registry.Releases handle trace result) : trace.Effect registry.owned [] result.owned := by
  by_cases hz : result.references handle = 0
  · obtain ⟨-, grant, -, ho, he⟩ := h.gone hz
    have := he.frame result.owned
    rwa [Multiset.zero_add, ← ho] at this
  · obtain ⟨-, ho, rfl⟩ := h.kept hz
    rw [ho]
    exact .nil _

/-- A release gives back the block of its own handle only. -/
theorem Releases.spares {places : List Address} {others : Ledger} (h : registry.Releases handle trace result)
    (ho : Ledger.Occupies (registry.owned + others) places) (hf : trace.Fresh places) {grant : Grant}
    (hg : grant ∈ result.owned + others) : ∀ exchange ∈ trace, exchange.returned? ≠ some grant.address := by
  by_cases hz : result.references handle = 0
  · obtain ⟨-, gone, -, hr, he⟩ := h.gone hz
    rw [hr, Multiset.add_assoc] at ho
    exact he.accounts.spares ho hf hg
  · obtain ⟨-, -, rfl⟩ := h.kept hz
    exact fun _ hm => absurd hm List.not_mem_nil

theorem runs_freeEntries {entries : List (UInt64 × Entry)} {value : Unit}
    (hf : ∀ entry ∈ entries, entry.2.allocator.Returns) (h : (freeEntries entries).Runs trace value) :
    trace.Effect (entries.map fun entry => entry.2.grant) [] 0 := by
  induction entries generalizing trace with
  | nil =>
    obtain ⟨rfl, -⟩ := h
    exact .nil 0
  | cons entry rest ih =>
    unfold freeEntries at h
    rw [Program.runs_bind_iff] at h
    obtain ⟨first, last, done, rfl, hd, h⟩ := h
    have he := runs_freeEntry (hf entry (List.mem_cons_self ..)) hd
    have hr := ih (fun found hm => hf found (List.mem_cons_of_mem _ hm)) h
    rw [List.map_cons, ← Multiset.cons_coe, ← Multiset.singleton_add]
    exact he.both hr

/-- All blocks of a registry are given back at its end. -/
theorem runs_drop {value : Unit} (hs : registry.Sound) (h : registry.drop.Runs trace value) :
    trace.Effect registry.owned [] 0 := by
  have all {rest : Trace} (h : (freeEntries registry.entries.toList).Runs rest value) :
      rest.Effect registry.owned [] 0 := by
    have := runs_freeEntries (fun entry hm => (hs entry.1 entry.2 (mem_contents.1 hm)).2) h
    rw [owned, contents, Multiset.map_coe]
    exact this
  unfold drop at h
  dsimp only at h
  split at h
  case isTrue => exact all h
  case isFalse =>
    rw [Program.runs_bind_iff] at h
    obtain ⟨first, last, done, rfl, hn, h⟩ := h
    exact .after_idle (Program.idle_notice rfl _ _ hn) (all h)

end VulkanBridge.Registry
