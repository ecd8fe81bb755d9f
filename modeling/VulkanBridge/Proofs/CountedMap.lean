import VulkanBridge.Proofs.Environment
import VulkanBridge.Proofs.Registry
/-!
# The registry as a counted map

Seen from outside, a registry is a map from handles to allocators with a count (`Registry.counted`). `CountedMap.retain`
and `CountedMap.release` are all that ever happens to this map, whatever else a registry's operations do with memory.

A registry is used by `Operation`s, which also make and consume entries that wait for their handle. `Performs` relates the
operations performed so far to the `Stage` that they lead to. `Performs.refines` says that at every stage the registry
is the counted map of the operations that succeeded, and that memory is outstanding for its entries and for the entries
that wait, and for nothing else.
-/

namespace VulkanBridge

/-- For each handle the allocator that is recorded and the number of references. -/
abbrev CountedMap := UInt64 → Option (Allocator × Nat)

namespace CountedMap

/-- One reference more. An absent handle gets this allocator, a present one keeps its own. -/
def retain (map : CountedMap) (handle : UInt64) (allocator : Allocator) : CountedMap :=
  Function.update map handle <|
    match map handle with
    | none => some (allocator, 1)
    | some (recorded, count) => some (recorded, count + 1)

/-- One reference less. A handle without references is absent. -/
def release (map : CountedMap) (handle : UInt64) : CountedMap :=
  Function.update map handle <|
    match map handle with
    | none => none
    | some (recorded, count) => if count - 1 = 0 then none else some (recorded, count - 1)

theorem retain_of_some {map : CountedMap} {handle : UInt64} {recorded : Allocator} {count : Nat}
    (h : map handle = some (recorded, count)) (allocator : Allocator) :
    map.retain handle allocator handle = some (recorded, count + 1) := by
  rw [retain, Function.update_self, h]

theorem release_of_none {map : CountedMap} {handle : UInt64} (h : map handle = none) : map.release handle = map := by
  rw [release, h]
  exact Function.update_eq_self_iff.2 h.symm

end CountedMap

namespace Registry

/-- What a registry records of each handle. -/
def counted (registry : Registry) : CountedMap := fun handle =>
  registry.entries[handle]?.map fun entry => (entry.allocator, entry.references.toNat)

/-! ## Operations -/

/-- What a registry is asked to do. -/
inductive Operation where
  | register (handle : UInt64) (allocator : Allocator) (scope : Scope)
  | prepare (allocator : Allocator) (scope : Scope)
  | insert (handle : UInt64) (pending : Pending)
  | discard (pending : Pending)
  | release (handle : UInt64)

/-- A registry, and the entries that were made for it and wait for their handle. -/
structure Stage where
  registry : Registry
  pendings : List Pending

namespace Stage

/-- Nothing recorded and nothing waiting. -/
def initial : Stage := ⟨empty, []⟩

/-- The blocks of all entries, those that wait included. -/
def owned (stage : Stage) : Ledger := stage.registry.owned + (stage.pendings.map Pending.grant : List Grant)

end Stage

namespace Operation

/-- What happens at an operation, and whether it succeeds. -/
def run (stage : Stage) : Operation → Program (Bool × Stage)
  | register handle allocator scope => do
    match ← stage.registry.register handle allocator scope with
    | .ok registry => pure (true, { stage with registry })
    | .error _ => pure (false, stage)
  | prepare allocator scope => do
    match ← Registry.prepare allocator scope with
    | .ok pending => pure (true, { stage with pendings := pending :: stage.pendings })
    | .error _ => pure (false, stage)
  | insert handle pending => do
    let registry ← stage.registry.insert handle pending
    pure (true, ⟨registry, stage.pendings.erase pending⟩)
  | discard pending => do
    Registry.discard pending
    pure (true, { stage with pendings := stage.pendings.erase pending })
  | release handle => do
    let registry ← stage.registry.release handle
    pure (true, { stage with registry })

/-- The allocator that an entry is to be made with. -/
def allocator? : Operation → Option Allocator
  | register _ allocator _ | prepare allocator _ => some allocator
  | _ => none

/-- The entry that an operation consumes. -/
def pending? : Operation → Option Pending
  | insert _ pending | discard pending => some pending
  | _ => none

/-- What an operation does to the counted map, if it succeeds. -/
def count (map : CountedMap) : Operation → CountedMap
  | register handle allocator _ => map.retain handle allocator
  | insert handle pending => map.retain handle pending.allocator
  | release handle => map.release handle
  | prepare .. | discard _ => map

/-- The operation makes entries with allocators that can free, and consumes one that waits. -/
def Allowed (stage : Stage) (operation : Operation) : Prop :=
  (∀ allocator ∈ operation.allocator?, allocator.HasFree) ∧ ∀ pending ∈ operation.pending?, pending ∈ stage.pendings

end Operation

/-- An operation with the trace it left, and whether it succeeded. -/
structure Performed where
  operation : Operation
  trace : Trace
  succeeded : Bool

namespace Performed

/-- The counted map after operations, the latest first. Those that fail change nothing. -/
def counted : List Performed → CountedMap
  | [] => fun _ => none
  | performed :: earlier =>
    if performed.succeeded then performed.operation.count (counted earlier) else counted earlier

/-- What was asked for at operations, the latest first. -/
def traceOf : List Performed → Trace
  | [] => []
  | performed :: earlier => traceOf earlier ++ performed.trace

/-- No handle has more references than a word can count. -/
def Few (operations : List Performed) : Prop :=
  ∀ handle allocator count, counted operations handle = some (allocator, count) → count < 2 ^ 32

end Performed

/-- Operations, the latest first, lead from an empty registry to a stage: allocators can free, no entry is consumed twice,
and references are few. -/
inductive Performs : List Performed → Stage → Prop
  | initial : Performs [] .initial
  | step {earlier : List Performed} {before after : Stage} {operation : Operation} {trace : Trace} {succeeded : Bool} :
      Performs earlier before → (operation.run before).Runs trace (succeeded, after) →
      operation.Allowed before → Performed.Few (⟨operation, trace, succeeded⟩ :: earlier) →
      Performs (⟨operation, trace, succeeded⟩ :: earlier) after

/-! ## The counted map after a change -/

section Changes

variable {registry : Registry} {handle : UInt64} {entry : Entry} {pending : Pending}

theorem counted_of_some (h : registry.entries[handle]? = some entry) :
    registry.counted handle = some (entry.allocator, entry.references.toNat) := by
  rw [counted, h, Option.map_some]

theorem counted_of_none (h : registry.entries[handle]? = none) : registry.counted handle = none := by
  rw [counted, h, Option.map_none]

/-- Registries that differ in one entry differ in one handle. -/
theorem counted_eq_update {result : Registry} (h : ∀ other, other ≠ handle → result.entries[other]? = registry.entries[other]?) :
    result.counted = Function.update registry.counted handle (result.counted handle) := by
  funext other
  by_cases he : other = handle
  · rw [he, Function.update_self]
  · rw [Function.update_of_ne he, counted, counted, h other he]

theorem counted_record (h : registry.entries[handle]? = none) :
    (registry.record handle pending).counted = registry.counted.retain handle pending.allocator := by
  rw [counted_eq_update fun other => entries_record, CountedMap.retain, counted_of_none h, counted_of_some entries_record_self]
  rfl

theorem counted_retain (h : registry.entries[handle]? = some entry) (allocator : Allocator)
    (hl : entry.references.toNat + 1 < 2 ^ 32) :
    (registry.retain handle entry).counted = registry.counted.retain handle allocator := by
  have hr := references_retain_self h (by rwa [references_of_some h])
  rw [references_of_some entries_retain_self, references_of_some h] at hr
  rw [counted_eq_update fun other => entries_retain, CountedMap.retain, counted_of_some h,
    counted_of_some entries_retain_self, hr]

theorem counted_forget (h : registry.entries[handle]? = some entry) (hr : entry.references = 1) :
    (registry.forget handle).counted = registry.counted.release handle := by
  rw [counted_eq_update fun other => entries_forget, CountedMap.release, counted_of_some h, counted_of_none entries_forget_self,
    hr]
  rfl

theorem counted_yield (h : registry.entries[handle]? = some entry) (hz : entry.references ≠ 0) (hr : entry.references ≠ 1) :
    (registry.yield handle entry).counted = registry.counted.release handle := by
  have hy := references_yield_self h hz
  rw [references_of_some entries_yield_self, references_of_some h] at hy
  have hone : entry.references.toNat ≠ 1 := fun he => hr (UInt32.toNat_inj.1 he)
  rw [counted_eq_update fun other => entries_yield, CountedMap.release, counted_of_some h, counted_of_some entries_yield_self]
  dsimp only at hy ⊢
  rw [if_neg (by omega)]
  congr 3
  omega

end Changes

/-! ## What holds at every stage -/

section Stages

variable [Reckoning] {registry : Registry} {handle : UInt64} {allocator : Allocator} {scope : Scope} {trace : Trace}
  {stage after : Stage} {earlier : List Performed} {operation : Operation} {succeeded : Bool}

/-- A known handle gets a reference, an unknown one an entry if there is memory for it. -/
theorem runs_register {outcome : Except CallError Registry}
    (h : (registry.register handle allocator scope).Runs trace outcome) :
    (∃ entry, registry.entries[handle]? = some entry ∧ outcome = .ok (registry.retain handle entry) ∧ trace = []) ∨
      (registry.entries[handle]? = none ∧ ∃ pending, pending.allocator = allocator ∧
        outcome = .ok (registry.record handle pending) ∧ trace.Effect 0 [] {pending.grant}) ∨
      (registry.entries[handle]? = none ∧ outcome = .error .outOfHostMemory ∧ trace.Idle) := by
  cases he : registry.entries[handle]? with
  | some entry =>
    obtain ⟨rfl, rfl⟩ := runs_register_known he h
    exact .inl ⟨entry, rfl, rfl, rfl⟩
  | none =>
    unfold register at h
    simp only [he, Program.runs_bind_iff] at h
    obtain ⟨first, last, prepared, rfl, hp, h⟩ := h
    obtain ⟨pending, rfl, ha, heff, -⟩ | ⟨rfl, hi⟩ := runs_prepare hp
    · rw [Program.runs_bind_iff] at h
      obtain ⟨inserting, done, result, rfl, hins, rfl, rfl⟩ := h
      obtain ⟨-, rfl, rfl⟩ | ⟨entry, he', -⟩ := runs_insert hins
      · exact .inr (.inl ⟨rfl, pending, ha, rfl, heff.before_idle Trace.idle_nil⟩)
      · rw [he] at he'
        cases he'
    · obtain ⟨rfl, rfl⟩ := h
      exact .inr (.inr ⟨rfl, rfl, Trace.idle_append_iff.2 ⟨hi, Trace.idle_nil⟩⟩)

/-- The registry is the counted map of the operations so far, and the memory they obtained and did not give back is that
of its entries and of the entries that wait. -/
structure Stage.Counts (stage : Stage) (earlier : List Performed) : Prop where
  sound : stage.registry.Sound
  returns : ∀ pending ∈ stage.pendings, pending.allocator.Returns
  counted : stage.registry.counted = Performed.counted earlier
  accounts : (Performed.traceOf earlier).Accounts 0 stage.owned

namespace Stage.Counts

theorem initial : Stage.initial.Counts [] where
  sound := sound_empty
  returns _ hm := absurd hm List.not_mem_nil
  counted := by
    funext handle
    exact counted_of_none Std.ExtTreeMap.getElem?_empty
  accounts := by
    refine Trace.Settles.accounts ?_
    rw [Stage.owned, Stage.initial, owned_empty]
    rfl

/-- An operation that fails. -/
theorem fail (h : stage.Counts earlier) (hi : trace.Idle) : stage.Counts (⟨operation, trace, false⟩ :: earlier) where
  sound := h.sound
  returns := h.returns
  counted := h.counted
  accounts := h.accounts.append (hi.settles _).accounts

omit [Reckoning] in
/-- An entry that waits, and the others. -/
theorem owned_erase {pending : Pending} (hm : pending ∈ stage.pendings) (registry : Registry) :
    Stage.owned ⟨registry, stage.pendings⟩ = {pending.grant} + Stage.owned ⟨registry, stage.pendings.erase pending⟩ := by
  have hperm := (List.perm_cons_erase hm).map Pending.grant
  rw [Stage.owned, Stage.owned, Multiset.coe_eq_coe.2 hperm, List.map_cons, ← Multiset.cons_coe, Multiset.singleton_add,
    Multiset.add_cons]

theorem returns_erase (h : stage.Counts earlier) (gone : Pending) :
    ∀ pending ∈ stage.pendings.erase gone, pending.allocator.Returns :=
  fun pending hm => h.returns pending (List.mem_of_mem_erase hm)

/-- A handle that is retained has room for one more reference. -/
theorem room (h : stage.Counts earlier) {entry : Entry} (he : stage.registry.entries[handle]? = some entry)
    (hl : ∀ recorded count, (Performed.counted earlier).retain handle allocator handle = some (recorded, count) →
      count < 2 ^ 32) : entry.references.toNat + 1 < 2 ^ 32 := by
  refine hl entry.allocator _ (CountedMap.retain_of_some ?_ allocator)
  rw [← h.counted, counted_of_some he]

theorem register (h : stage.Counts earlier) (ha : allocator.Returns)
    (hr : ((Operation.register handle allocator scope).run stage).Runs trace (succeeded, after))
    (hl : Performed.Few (⟨.register handle allocator scope, trace, succeeded⟩ :: earlier)) :
    after.Counts (⟨.register handle allocator scope, trace, succeeded⟩ :: earlier) := by
  unfold Operation.run at hr
  rw [Program.runs_bind_iff] at hr
  obtain ⟨first, last, outcome, rfl, hreg, hr⟩ := hr
  obtain ⟨entry, he, rfl, rfl⟩ | ⟨he, pending, rfl, rfl, heff⟩ | ⟨he, rfl, hi⟩ := runs_register hreg
  · obtain ⟨rfl, heq⟩ := hr
    obtain ⟨rfl, rfl⟩ := Prod.mk.inj heq
    have hroom := h.room he (hl handle)
    refine ⟨h.sound.retain he (by rwa [references_of_some he]), h.returns, ?_, ?_⟩
    · show (stage.registry.retain handle entry).counted = (Performed.counted earlier).retain handle allocator
      rw [counted_retain he allocator hroom, h.counted]
    · show (Performed.traceOf earlier ++ []).Accounts 0 (Stage.owned ⟨stage.registry.retain handle entry, stage.pendings⟩)
      rw [List.append_nil, Stage.owned, owned_retain he]
      exact h.accounts
  · obtain ⟨rfl, heq⟩ := hr
    obtain ⟨rfl, rfl⟩ := Prod.mk.inj heq
    refine ⟨h.sound.record ha, h.returns, ?_, ?_⟩
    · show (stage.registry.record handle pending).counted = (Performed.counted earlier).retain handle pending.allocator
      rw [counted_record he, h.counted]
    · have hmore := (heff.before_idle Trace.idle_nil).accounts.frame stage.owned
      rw [Multiset.zero_add] at hmore
      have howned : Stage.owned ⟨stage.registry.record handle pending, stage.pendings⟩ = {pending.grant} + stage.owned := by
        rw [Stage.owned, Stage.owned, owned_record he, Multiset.singleton_add, Multiset.cons_add]
      rw [howned]
      exact h.accounts.append hmore
  · obtain ⟨rfl, heq⟩ := hr
    obtain ⟨rfl, rfl⟩ := Prod.mk.inj heq
    exact h.fail (Trace.idle_append_iff.2 ⟨hi, Trace.idle_nil⟩)

theorem prepare (h : stage.Counts earlier) (ha : allocator.Returns)
    (hr : ((Operation.prepare allocator scope).run stage).Runs trace (succeeded, after)) :
    after.Counts (⟨.prepare allocator scope, trace, succeeded⟩ :: earlier) := by
  unfold Operation.run at hr
  rw [Program.runs_bind_iff] at hr
  obtain ⟨first, last, outcome, rfl, hp, hr⟩ := hr
  obtain ⟨pending, rfl, rfl, heff, -⟩ | ⟨rfl, hi⟩ := runs_prepare hp
  · obtain ⟨rfl, heq⟩ := hr
    obtain ⟨rfl, rfl⟩ := Prod.mk.inj heq
    refine ⟨h.sound, fun other hm => ?_, h.counted, ?_⟩
    · obtain rfl | hm := List.mem_cons.1 hm
      · exact ha
      · exact h.returns other hm
    · have hmore := (heff.before_idle Trace.idle_nil).accounts.frame stage.owned
      rw [Multiset.zero_add] at hmore
      have howned : Stage.owned ⟨stage.registry, pending :: stage.pendings⟩ = {pending.grant} + stage.owned := by
        rw [Stage.owned, Stage.owned, List.map_cons, ← Multiset.cons_coe, Multiset.singleton_add, Multiset.add_cons]
      rw [howned]
      exact h.accounts.append hmore
  · obtain ⟨rfl, heq⟩ := hr
    obtain ⟨rfl, rfl⟩ := Prod.mk.inj heq
    exact h.fail (Trace.idle_append_iff.2 ⟨hi, Trace.idle_nil⟩)

theorem insert {pending : Pending} (h : stage.Counts earlier) (hm : pending ∈ stage.pendings)
    (hr : ((Operation.insert handle pending).run stage).Runs trace (succeeded, after))
    (hl : Performed.Few (⟨.insert handle pending, trace, succeeded⟩ :: earlier)) :
    after.Counts (⟨.insert handle pending, trace, succeeded⟩ :: earlier) := by
  unfold Operation.run at hr
  rw [Program.runs_bind_iff] at hr
  obtain ⟨first, last, registry, rfl, hins, rfl, heq⟩ := hr
  obtain ⟨rfl, rfl⟩ := Prod.mk.inj heq
  rw [List.append_nil]
  have haccounts := h.accounts
  rw [show stage.owned = _ from owned_erase hm stage.registry] at haccounts
  obtain ⟨he, rfl, rfl⟩ | ⟨entry, he, rfl, hd⟩ := runs_insert hins
  · refine ⟨h.sound.record (h.returns pending hm), h.returns_erase pending, ?_, ?_⟩
    · show (stage.registry.record handle pending).counted = (Performed.counted earlier).retain handle pending.allocator
      rw [counted_record he, h.counted]
    · have howned : Stage.owned ⟨stage.registry.record handle pending, stage.pendings.erase pending⟩ =
          {pending.grant} + Stage.owned ⟨stage.registry, stage.pendings.erase pending⟩ := by
        rw [Stage.owned, Stage.owned, owned_record he, Multiset.singleton_add, Multiset.cons_add]
      show (Performed.traceOf earlier ++ []).Accounts 0 _
      rw [List.append_nil, howned]
      exact haccounts
  · have hroom := h.room he (hl handle)
    refine ⟨h.sound.retain he (by rwa [references_of_some he]), h.returns_erase pending, ?_, ?_⟩
    · show (stage.registry.retain handle entry).counted = (Performed.counted earlier).retain handle pending.allocator
      rw [counted_retain he _ hroom, h.counted]
    · have howned : Stage.owned ⟨stage.registry.retain handle entry, stage.pendings.erase pending⟩ =
          Stage.owned ⟨stage.registry, stage.pendings.erase pending⟩ := by
        rw [Stage.owned, Stage.owned, owned_retain he]
      have hless := (runs_discard (h.returns pending hm) hd).accounts.frame
        (Stage.owned ⟨stage.registry, stage.pendings.erase pending⟩)
      rw [Multiset.zero_add] at hless
      rw [howned]
      exact haccounts.append hless

theorem discard {pending : Pending} (h : stage.Counts earlier) (hm : pending ∈ stage.pendings)
    (hr : ((Operation.discard pending).run stage).Runs trace (succeeded, after)) :
    after.Counts (⟨.discard pending, trace, succeeded⟩ :: earlier) := by
  unfold Operation.run at hr
  rw [Program.runs_bind_iff] at hr
  obtain ⟨first, last, done, rfl, hd, rfl, heq⟩ := hr
  obtain ⟨rfl, rfl⟩ := Prod.mk.inj heq
  refine ⟨h.sound, h.returns_erase pending, h.counted, ?_⟩
  have haccounts := h.accounts
  rw [show stage.owned = _ from owned_erase hm stage.registry] at haccounts
  have hless := ((runs_discard (h.returns pending hm) hd).before_idle Trace.idle_nil).accounts.frame
    (Stage.owned ⟨stage.registry, stage.pendings.erase pending⟩)
  rw [Multiset.zero_add] at hless
  exact haccounts.append hless

theorem release (h : stage.Counts earlier)
    (hr : ((Operation.release handle).run stage).Runs trace (succeeded, after)) :
    after.Counts (⟨.release handle, trace, succeeded⟩ :: earlier) := by
  unfold Operation.run at hr
  rw [Program.runs_bind_iff] at hr
  obtain ⟨first, last, registry, rfl, hrel, rfl, heq⟩ := hr
  obtain ⟨rfl, rfl⟩ := Prod.mk.inj heq
  rw [List.append_nil]
  obtain ⟨he, rfl, rfl⟩ | ⟨entry, he, ⟨hone, rfl, hd⟩ | ⟨hone, rfl, rfl⟩⟩ := runs_release hrel
  · refine ⟨h.sound, h.returns, ?_, h.accounts.append (Trace.Settles.accounts ⟨_, .still rfl rfl, rfl⟩)⟩
    show stage.registry.counted = (Performed.counted earlier).release handle
    rw [← h.counted, CountedMap.release_of_none (counted_of_none he)]
  · refine ⟨h.sound.forget, h.returns, ?_, ?_⟩
    · show (stage.registry.forget handle).counted = (Performed.counted earlier).release handle
      rw [counted_forget he hone, h.counted]
    · have howned : stage.owned = {entry.grant} + Stage.owned ⟨stage.registry.forget handle, stage.pendings⟩ := by
        rw [Stage.owned, Stage.owned, owned_forget he, Multiset.singleton_add, Multiset.cons_add]
      have hless := (runs_freeEntry (h.sound _ _ he).2 hd).accounts.frame
        (Stage.owned ⟨stage.registry.forget handle, stage.pendings⟩)
      rw [Multiset.zero_add, ← howned] at hless
      exact h.accounts.append hless
  · refine ⟨h.sound.yield he hone, h.returns, ?_, ?_⟩
    · show (stage.registry.yield handle entry).counted = (Performed.counted earlier).release handle
      rw [counted_yield he (h.sound _ _ he).1 hone, h.counted]
    · show (Performed.traceOf earlier ++ []).Accounts 0 (Stage.owned ⟨stage.registry.yield handle entry, stage.pendings⟩)
      rw [List.append_nil, Stage.owned, owned_yield he]
      exact h.accounts

end Stage.Counts

theorem Performs.counts (h : Performs earlier stage) : stage.Counts earlier := by
  induction h with
  | initial => exact .initial
  | @step earlier before after operation trace succeeded _ hr ha hl ih =>
    cases operation with
    | register handle allocator scope => exact ih.register (fun _ => ha.1 allocator rfl) hr hl
    | prepare allocator scope => exact ih.prepare (fun _ => ha.1 allocator rfl) hr
    | insert handle pending => exact ih.insert (ha.2 pending rfl) hr hl
    | discard pending => exact ih.discard (ha.2 pending rfl) hr
    | release handle => exact ih.release hr

end Stages

/-! ## The counted map of a whole use -/

/-- Registering a handle, and preparing an entry and putting it under the handle, come to the same counted map. -/
theorem counted_register_eq {registry registered inserted : Registry} {handle : UInt64} {allocator : Allocator} {scope : Scope}
    {pending : Pending} {trace first last : Trace}
    (hr : (registry.register handle allocator scope).Runs trace (.ok registered))
    (hp : (Registry.prepare allocator scope).Runs first (.ok pending))
    (hi : (registry.insert handle pending).Runs last inserted) : registered.counted = inserted.counted := by
  let _ : Reckoning := ⟨True⟩
  obtain ⟨_, heq, ha, -⟩ | ⟨herror, -⟩ := runs_prepare hp
  · obtain rfl := Except.ok.inj heq
    obtain ⟨entry, he, hok, -⟩ | ⟨he, made, hmade, hok, -⟩ | ⟨-, herror, -⟩ := runs_register hr
    · obtain rfl := Except.ok.inj hok
      obtain ⟨hnone, -⟩ | ⟨entry', he', rfl, -⟩ := runs_insert hi
      · rw [he] at hnone
        cases hnone
      · obtain rfl := Option.some.inj (he.symm.trans he')
        rfl
    · obtain rfl := Except.ok.inj hok
      obtain ⟨-, rfl, -⟩ | ⟨entry', he', -⟩ := runs_insert hi
      · rw [counted_record he, counted_record he, hmade, ha]
      · rw [he] at he'
        cases he'
    · cases herror
  · cases herror

/-- Blocks of one allocator. -/
theorem Stage.owned_filter (stage : Stage) (allocator : Allocator) :
    stage.owned.filter (·.allocator = allocator) =
      ((contents stage.registry.entries).filter (·.2.allocator = allocator)).map (·.2.grant) +
        ((stage.pendings.filter (·.allocator = allocator)).map Pending.grant : List Grant) := by
  rw [Stage.owned, Multiset.filter_add, Registry.owned, Multiset.filter_map, Multiset.filter_coe, List.filter_map]
  rfl

/-- At every stage, the registry is the counted map of the operations that succeeded so far. The memory that is outstanding
on an allocator is that of the entries recording it and of the entries made with it that wait. To register a present
handle asks for nothing; to register a handle is to prepare an entry and put it under the handle; and at its end a
registry gives back what its entries are made of, once each, to the allocators they record. -/
theorem Performs.refines {performed : List Performed} {stage : Stage} (h : Performs performed stage) :
    stage.registry.counted = Performed.counted performed ∧
    (∃ outstanding : Ledger, (Performed.traceOf performed).Settles 0 outstanding ∧ ∀ allocator,
      outstanding.filter (·.allocator = allocator) =
        ((contents stage.registry.entries).filter (·.2.allocator = allocator)).map (·.2.grant) +
          ((stage.pendings.filter (·.allocator = allocator)).map Pending.grant : List Grant)) ∧
    (∀ handle allocator scope trace outcome, Performed.counted performed handle ≠ none →
      (stage.registry.register handle allocator scope).Runs trace outcome → trace = [] ∧ ∃ registry, outcome = .ok registry) ∧
    (∀ handle allocator scope trace first last pending registered inserted,
      (stage.registry.register handle allocator scope).Runs trace (.ok registered) →
      (Registry.prepare allocator scope).Runs first (.ok pending) →
      (stage.registry.insert handle pending).Runs last inserted → registered.counted = inserted.counted) ∧
    ∀ trace, stage.registry.drop.Runs trace () →
      trace.Settles ((contents stage.registry.entries).map (·.2.grant)) 0 := by
  let _ : Reckoning := ⟨True⟩
  have hc := h.counts
  refine ⟨hc.counted, ⟨stage.owned, hc.accounts.settles trivial, stage.owned_filter⟩, ?_, ?_, ?_⟩
  · intro handle allocator scope trace outcome hpresent hr
    rw [← hc.counted] at hpresent
    cases he : stage.registry.entries[handle]? with
    | none => exact (hpresent (counted_of_none he)).elim
    | some entry =>
      obtain ⟨rfl, rfl⟩ := runs_register_known he hr
      exact ⟨rfl, _, rfl⟩
  · exact fun _ _ _ _ _ _ _ _ _ hr hp hi => counted_register_eq hr hp hi
  · exact fun trace hd => (runs_drop hc.sound hd).accounts.settles trivial

/-! ## A sample -/

/-- No handle has more references than there were operations. -/
theorem Performed.counted_le {performed : List Performed} {handle : UInt64} {allocator : Allocator} {count : Nat}
    (h : Performed.counted performed handle = some (allocator, count)) : count ≤ performed.length := by
  induction performed generalizing allocator count with
  | nil => cases h
  | cons last earlier ih =>
    have retained {other : UInt64} {made : Allocator}
        (h : (Performed.counted earlier).retain other made handle = some (allocator, count)) : count ≤ earlier.length + 1 := by
      rw [CountedMap.retain, Function.update_apply] at h
      split at h
      case isTrue heq =>
        cases hp : Performed.counted earlier other with
        | none =>
          simp only [hp, Option.some.injEq, Prod.mk.injEq] at h
          omega
        | some found =>
          simp only [hp, Option.some.injEq, Prod.mk.injEq] at h
          have := ih (heq ▸ hp)
          omega
      case isFalse => exact (ih h).trans (Nat.le_succ _)
    have released {other : UInt64} (h : (Performed.counted earlier).release other handle = some (allocator, count)) :
        count ≤ earlier.length + 1 := by
      rw [CountedMap.release, Function.update_apply] at h
      split at h
      case isTrue heq =>
        cases hp : Performed.counted earlier other with
        | none => simp [hp] at h
        | some found =>
          simp only [hp, Option.ite_none_left_eq_some, Option.some.injEq, Prod.mk.injEq] at h
          have := ih (heq ▸ hp)
          omega
      case isFalse => exact (ih h).trans (Nat.le_succ _)
    rw [Performed.counted] at h
    split at h
    case isFalse => exact (ih h).trans (Nat.le_succ _)
    case isTrue =>
      cases ho : last.operation with
      | register _ _ _ | insert _ _ =>
        rw [ho] at h
        exact retained h
      | release _ =>
        rw [ho] at h
        exact released h
      | prepare _ _ | discard _ =>
        rw [ho] at h
        exact (ih h).trans (Nat.le_succ _)

/-- Operations in an environment, the latest first, and the stage that they lead to. -/
def performs (environment : Environment) : List Operation → List Performed × Stage
  | [] => ([], .initial)
  | operation :: earlier =>
    let before := performs environment earlier
    let played := (operation.run before.2).play environment (Performed.traceOf before.1).length
    (⟨operation, played.1, played.2.1⟩ :: before.1, played.2.2)

/-- Each operation is allowed after those before it. -/
def AllAllowed (environment : Environment) : List Operation → Prop
  | [] => True
  | operation :: earlier => operation.Allowed (performs environment earlier).2 ∧ AllAllowed environment earlier

theorem length_performs (environment : Environment) (operations : List Operation) :
    (performs environment operations).1.length = operations.length := by
  induction operations with
  | nil => rfl
  | cons operation earlier ih => rw [performs, List.length_cons, List.length_cons, ih]

theorem performs_of_allAllowed {environment : Environment} {operations : List Operation}
    (h : AllAllowed environment operations) (hl : operations.length < 2 ^ 32) :
    Performs (performs environment operations).1 (performs environment operations).2 := by
  induction operations with
  | nil => exact .initial
  | cons operation earlier ih =>
    refine .step (ih h.2 (by simp only [List.length_cons] at hl; omega)) (Program.runs_play environment _ _) h.1 ?_
    intro handle allocator count hc
    refine (Performed.counted_le hc).trans_lt ?_
    rwa [List.length_cons, length_performs]

namespace Sample

/-- An allocator of the application. -/
def custom (userData : UInt64) : Allocator := .merge (some (VulkanBridge.Sample.callbacks userData)) .system

theorem hasFree_custom (userData : UInt64) : ∀ allocator ∈ some (custom userData), allocator.HasFree := by
  intro allocator hm
  obtain rfl := Option.some.inj hm
  rfl

/-- An entry of one allocator is prepared, the handle it is for is registered with another one, and the entry is put under
the handle; one of the two references goes. Another entry is left waiting. -/
def operations : List Operation :=
  [.release 5, .insert 5 ⟨custom 1, ⟨4096⟩⟩, .prepare (custom 2) .object, .register 5 (custom 2) .object,
   .prepare (custom 1) .object]

end Sample

/-- The handle keeps the allocator it was registered with, which has the block of the entry; and a block for the entry that
waits. The other allocator has its block back. -/
theorem refines_operations :
    Performs (performs .obliging Sample.operations).1 (performs .obliging Sample.operations).2 ∧
    Performed.counted (performs .obliging Sample.operations).1 5 = some (Sample.custom 2, 1) ∧
    (performs .obliging Sample.operations).2.registry.counted 5 = some (Sample.custom 2, 1) ∧
    (performs .obliging Sample.operations).2.pendings = [⟨Sample.custom 2, ⟨12288⟩⟩] := by
  have h : Performs (performs .obliging Sample.operations).1 (performs .obliging Sample.operations).2 := by
    refine performs_of_allAllowed ?_ (by decide)
    have waits : (⟨Sample.custom 1, ⟨4096⟩⟩ : Pending) ∈ (performs .obliging Sample.operations.tail.tail).2.pendings := by
      decide +kernel
    refine ⟨⟨nofun, nofun⟩, ⟨nofun, fun pending hm => ?_⟩, ⟨Sample.hasFree_custom 2, nofun⟩,
      ⟨Sample.hasFree_custom 2, nofun⟩, ⟨Sample.hasFree_custom 1, nofun⟩, trivial⟩
    obtain rfl := Option.some.inj hm
    exact waits
  have hcount : Performed.counted (performs .obliging Sample.operations).1 5 = some (Sample.custom 2, 1) := by decide +kernel
  exact ⟨h, hcount, by rw [(Performs.refines h).1, hcount], by decide +kernel⟩

end Registry

end VulkanBridge
