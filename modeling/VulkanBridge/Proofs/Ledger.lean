import VulkanBridge.Trace
import Mathlib.Data.Multiset.AddSub
import Mathlib.Data.Multiset.UnionInter
/-!
# The ledger of a trace

Memory is accounted for by the trace alone. A `Grant` is a block that was obtained and not given back: where it
lies, whose it is, and its measures. `Trace.Settles` relates the grants before a trace to those after it, and
leaves no way to give a block back twice, to another allocator, or with other measures.

What allocators owe is that they hand out no block that is still held (`Trace.Fresh`). Then no two grants lie at
the same place (`Trace.Settles.occupies`).

An allocator without a way to free keeps its blocks for good. A `Reckoning` says whether such allocators are about, and
`Trace.Accounts` leaves out the blocks that they keep.
-/

namespace VulkanBridge

/-- A block of memory that is held. -/
structure Grant where
  address : Address
  allocator : Allocator
  layout : Layout
  deriving DecidableEq

/-- The blocks held. -/
abbrev Ledger := Multiset Grant

namespace Exchange

/-- The block that an allocation answered with. -/
def obtained? : Exchange → Option Address
  | ⟨.callback (.allocate ..), answer⟩ => answer
  | ⟨.callback (.reallocate ..), answer⟩ => answer
  | ⟨.systemAllocate _, answer⟩ => answer
  | _ => none

/-- The block that was given back. -/
def returned? : Exchange → Option Address
  | ⟨.callback (.free _ _ memory), _⟩ => memory
  | ⟨.callback (.reallocate _ _ old _ _ _), some _⟩ => old
  | ⟨.systemFree address _, _⟩ => some address
  | _ => none

end Exchange

/-- The exchange obtained this block, from its allocator and with its measures. -/
def Grant.ObtainedBy (grant : Grant) : Exchange → Prop
  | ⟨.callback (.allocate function userData size alignment _), some address⟩ =>
    ∃ callbacks, grant = ⟨address, .custom callbacks, ⟨size, alignment⟩⟩ ∧
      callbacks.allocation = some function ∧ callbacks.userData = userData
  | ⟨.systemAllocate layout, some address⟩ => grant = ⟨address, .system, layout⟩
  | _ => False

/-- The exchange gave this block back to its allocator; the process's allocator is told the measures too. -/
def Grant.ReturnedBy (grant : Grant) : Exchange → Prop
  | ⟨.callback (.free function userData (some address)), _⟩ =>
    ∃ callbacks layout, grant = ⟨address, .custom callbacks, layout⟩ ∧
      callbacks.free = some function ∧ callbacks.userData = userData
  | ⟨.systemFree address layout, _⟩ => grant = ⟨address, .system, layout⟩
  | _ => False

/-- What one exchange does to the blocks held. -/
inductive Exchange.Settles : Ledger → Exchange → Ledger → Prop
  | obtain {ledger : Ledger} {exchange : Exchange} {grant : Grant} :
      grant.ObtainedBy exchange → Settles ledger exchange (grant ::ₘ ledger)
  | giveBack {ledger : Ledger} {exchange : Exchange} {grant : Grant} :
      grant.ReturnedBy exchange → Settles (grant ::ₘ ledger) exchange ledger
  | still {ledger : Ledger} {exchange : Exchange} :
      exchange.obtained? = none → exchange.returned? = none → Settles ledger exchange ledger

namespace Grant

theorem ObtainedBy.obtained {grant : Grant} {exchange : Exchange} (h : grant.ObtainedBy exchange) :
    exchange.obtained? = some grant.address ∧ exchange.returned? = none := by
  unfold ObtainedBy at h
  split at h
  · obtain ⟨callbacks, rfl, -, -⟩ := h
    exact ⟨rfl, rfl⟩
  · subst h
    exact ⟨rfl, rfl⟩
  · exact h.elim

theorem ReturnedBy.returned {grant : Grant} {exchange : Exchange} (h : grant.ReturnedBy exchange) :
    exchange.returned? = some grant.address ∧ exchange.obtained? = none := by
  unfold ReturnedBy at h
  split at h
  · obtain ⟨callbacks, layout, rfl, -, -⟩ := h
    exact ⟨rfl, rfl⟩
  · subst h
    exact ⟨rfl, rfl⟩
  · exact h.elim

end Grant

namespace Trace

/-- What a trace does to the blocks held. -/
def Settles (before : Ledger) : Trace → Ledger → Prop
  | [], after => before = after
  | exchange :: rest, after => ∃ between, exchange.Settles before between ∧ Settles between rest after

@[simp] theorem settles_nil_iff {before after : Ledger} : Settles before [] after ↔ before = after := Iff.rfl

@[simp] theorem settles_cons_iff {before after : Ledger} {exchange : Exchange} {rest : Trace} :
    Settles before (exchange :: rest) after ↔
      ∃ between, exchange.Settles before between ∧ Settles between rest after := Iff.rfl

theorem settles_append_iff {before after : Ledger} {first last : Trace} :
    Settles before (first ++ last) after ↔
      ∃ between, first.Settles before between ∧ last.Settles between after := by
  induction first generalizing before with
  | nil => simp
  | cons exchange rest ih =>
    simp only [List.cons_append, settles_cons_iff, ih]
    constructor
    · rintro ⟨next, he, between, hf, hl⟩
      exact ⟨between, ⟨next, he, hf⟩, hl⟩
    · rintro ⟨between, ⟨next, he, hf⟩, hl⟩
      exact ⟨next, he, between, hf, hl⟩

end Trace

theorem Exchange.Settles.frame {before after : Ledger} {exchange : Exchange} (h : exchange.Settles before after)
    (others : Ledger) : exchange.Settles (before + others) (after + others) := by
  cases h with
  | obtain hg => rw [Multiset.cons_add]; exact .obtain hg
  | giveBack hg => rw [Multiset.cons_add]; exact .giveBack hg
  | still ho hr => exact .still ho hr

/-- Blocks that a trace does not touch stay held. -/
theorem Trace.Settles.frame {before after : Ledger} {trace : Trace} (h : trace.Settles before after)
    (others : Ledger) : trace.Settles (before + others) (after + others) := by
  induction trace generalizing before with
  | nil => rw [settles_nil_iff] at h ⊢; rw [h]
  | cons exchange rest ih =>
    obtain ⟨between, he, hr⟩ := h
    exact ⟨between + others, he.frame others, ih hr⟩

/-! ## Blocks handed out while they are held -/

namespace Exchange

/-- The places held after an exchange. -/
def held (places : List Address) (exchange : Exchange) : List Address :=
  exchange.obtained?.toList ++ places.filter fun address => exchange.returned? ≠ some address

end Exchange

namespace Trace

/-- The places held after a trace. -/
def held : List Address → Trace → List Address := List.foldl Exchange.held

/-- No allocation of the trace answers with a block that is still held. -/
def Fresh : List Address → Trace → Prop
  | _, [] => True
  | places, exchange :: rest =>
    (∀ address ∈ exchange.obtained?, address ∉ places ∨ exchange.returned? = some address) ∧
      Fresh (exchange.held places) rest

instance decidableFresh (places : List Address) (trace : Trace) : Decidable (Fresh places trace) :=
  match trace with
  | [] => isTrue trivial
  | exchange :: rest =>
    have := decidableFresh (exchange.held places) rest
    inferInstanceAs (Decidable (_ ∧ _))

theorem fresh_append_iff {places : List Address} {first last : Trace} :
    Fresh places (first ++ last) ↔ first.Fresh places ∧ last.Fresh (held places first) := by
  induction first generalizing places with
  | nil => simp [Fresh, held]
  | cons exchange rest ih => simp only [List.cons_append, Fresh, ih, held, List.foldl_cons, and_assoc]

/-- Where nothing is obtained, nothing can be handed out twice. -/
theorem fresh_of_unobtained {trace : Trace} (h : ∀ exchange ∈ trace, exchange.obtained? = none) (places : List Address) :
    trace.Fresh places := by
  induction trace generalizing places with
  | nil => trivial
  | cons exchange rest ih =>
    obtain ⟨hfirst, hrest⟩ := List.forall_mem_cons.1 h
    refine ⟨?_, ih hrest _⟩
    rw [hfirst]
    exact nofun

theorem held_append (places : List Address) (first last : Trace) :
    held places (first ++ last) = held (held places first) last := List.foldl_append

end Trace

namespace Ledger

/-- No two blocks lie at the same place. -/
def Distinct (ledger : Ledger) : Prop := (ledger.map Grant.address).Nodup

/-- No two blocks lie at the same place, and all lie at these places. -/
structure Occupies (ledger : Ledger) (places : List Address) : Prop where
  distinct : ledger.Distinct
  within : ∀ grant ∈ ledger, grant.address ∈ places

theorem Distinct.of_add_left {first last : Ledger} (h : Distinct (first + last)) : Distinct first := by
  unfold Distinct at h ⊢
  rw [Multiset.map_add] at h
  exact (Multiset.nodup_add.1 h).1

theorem Distinct.not_mem {ledger : Ledger} {grant : Grant} (h : Distinct (grant ::ₘ ledger)) :
    ∀ other ∈ ledger, other.address ≠ grant.address := by
  unfold Distinct at h
  rw [Multiset.map_cons, Multiset.nodup_cons] at h
  intro other ho he
  exact h.1 (he ▸ Multiset.mem_map_of_mem _ ho)

/-- Fewer blocks occupy no more places. -/
theorem Occupies.of_add_left {first last : Ledger} {places : List Address} (h : Occupies (first + last) places) :
    first.Occupies places :=
  ⟨h.distinct.of_add_left, fun grant hg => h.within grant (Multiset.mem_add.2 (.inl hg))⟩

/-- Blocks of two parts of a ledger lie at different places. -/
theorem Distinct.ne {first last : Ledger} (h : Distinct (first + last)) {grant other : Grant}
    (hg : grant ∈ first) (ho : other ∈ last) : grant.address ≠ other.address := by
  unfold Distinct at h
  rw [Multiset.map_add, Multiset.nodup_add, Multiset.disjoint_left] at h
  intro he
  exact h.2.2 (Multiset.mem_map_of_mem _ hg) (he ▸ Multiset.mem_map_of_mem _ ho)

end Ledger

theorem Exchange.Settles.occupies {before after : Ledger} {exchange : Exchange} {places : List Address}
    (h : exchange.Settles before after) (ho : before.Occupies places)
    (hf : ∀ address ∈ exchange.obtained?, address ∉ places ∨ exchange.returned? = some address) :
    after.Occupies (exchange.held places) := by
  obtain ⟨hd, hw⟩ := ho
  cases h with
  | @obtain _ _ grant hg =>
    obtain ⟨ho, hr⟩ := hg.obtained
    have hn : grant.address ∉ places := (hf _ ho).resolve_right (by simp [hr])
    constructor
    · unfold Ledger.Distinct
      rw [Multiset.map_cons, Multiset.nodup_cons]
      refine ⟨fun hm => hn ?_, hd⟩
      obtain ⟨other, hm, he⟩ := Multiset.mem_map.1 hm
      exact he ▸ hw other hm
    · intro other hm
      obtain rfl | hm := Multiset.mem_cons.1 hm
      · simp [Exchange.held, ho]
      · simp [Exchange.held, hr, hw other hm]
  | @giveBack _ _ grant hg =>
    obtain ⟨hr, ho⟩ := hg.returned
    have hne := hd.not_mem
    unfold Ledger.Distinct at hd
    rw [Multiset.map_cons, Multiset.nodup_cons] at hd
    refine ⟨hd.2, fun other hm => ?_⟩
    have hplace := hw other (Multiset.mem_cons_of_mem hm)
    have hother : grant.address ≠ other.address := Ne.symm (hne other hm)
    simp [Exchange.held, ho, hr, hplace, hother]
  | still ho hr =>
    refine ⟨hd, fun other hm => ?_⟩
    simp [Exchange.held, ho, hr, hw other hm]

namespace Trace

/-- If allocators keep to free places, no two blocks come to lie at the same one. -/
theorem Settles.occupies {before after : Ledger} {trace : Trace} {places : List Address}
    (h : trace.Settles before after) (ho : before.Occupies places) (hf : trace.Fresh places) :
    after.Occupies (held places trace) := by
  induction trace generalizing before places with
  | nil =>
    rw [settles_nil_iff] at h
    subst h
    exact ho
  | cons exchange rest ih =>
    obtain ⟨between, he, hr⟩ := h
    exact ih hr (he.occupies ho hf.1) hf.2

/-- Every place that a trace leaves held has its block. -/
theorem Settles.mem_of_held {before after : Ledger} {trace : Trace} {places : List Address}
    (h : trace.Settles before after) (hp : ∀ address ∈ places, address ∈ before.map Grant.address) :
    ∀ address ∈ held places trace, address ∈ after.map Grant.address := by
  induction trace generalizing before places with
  | nil =>
    rw [settles_nil_iff] at h
    subst h
    exact hp
  | cons exchange rest ih =>
    obtain ⟨between, he, hr⟩ := h
    refine ih hr fun address hm => ?_
    rw [Exchange.held, List.mem_append, List.mem_filter] at hm
    cases he with
    | @obtain _ _ grant hg =>
      rw [Multiset.map_cons, Multiset.mem_cons]
      obtain ⟨ho, -⟩ := hg.obtained
      obtain hm | ⟨hm, -⟩ := hm
      · rw [ho] at hm
        exact .inl (List.mem_singleton.1 hm)
      · exact .inr (hp address hm)
    | @giveBack _ _ grant hg =>
      obtain ⟨hr, ho⟩ := hg.returned
      obtain hm | ⟨hm, hne⟩ := hm
      · rw [ho] at hm
        exact absurd hm List.not_mem_nil
      · have hm := hp address hm
        rw [Multiset.map_cons, Multiset.mem_cons] at hm
        refine hm.resolve_left fun heq => ?_
        simp [hr, heq] at hne
    | still ho hr =>
      obtain hm | ⟨hm, -⟩ := hm
      · rw [ho] at hm
        exact absurd hm List.not_mem_nil
      · exact hp address hm

/-- Nothing is given back of the blocks that a trace does not handle. -/
theorem Settles.spares {before after others : Ledger} {trace : Trace} {places : List Address}
    (h : trace.Settles before after) (ho : Ledger.Occupies (before + others) places) (hf : trace.Fresh places)
    {grant : Grant} (hg : grant ∈ others) : ∀ exchange ∈ trace, exchange.returned? ≠ some grant.address := by
  induction trace generalizing before places with
  | nil => exact fun _ hm => absurd hm List.not_mem_nil
  | cons exchange rest ih =>
    obtain ⟨between, he, hr⟩ := h
    intro other hm
    obtain rfl | hm := List.mem_cons.1 hm
    · cases he with
      | obtain hb => simp [hb.obtained.2]
      | giveBack hb =>
        rw [hb.returned.1]
        intro heq
        exact ho.distinct.ne (Multiset.mem_cons_self ..) hg (Option.some.inj heq)
      | still _ hn => simp [hn]
    · exact ih hr ((he.frame others).occupies ho hf.1) hf.2 other hm

end Trace

/-! ## Blocks that cannot be given back -/

/-- How strictly memory is reckoned. -/
class Reckoning where
  /-- Every allocator can take back what it gave. -/
  strict : Prop

namespace Trace

variable [Reckoning]

/-- What a trace does to the blocks held, but for those that cannot be given back. -/
def Accounts (before : Ledger) (trace : Trace) (after : Ledger) : Prop :=
  ∃ lost : Ledger, trace.Settles before (after + lost) ∧ (Reckoning.strict → lost = 0)

variable {before between after others : Ledger} {trace first last : Trace} {places : List Address}

theorem Settles.accounts (h : trace.Settles before after) : trace.Accounts before after :=
  ⟨0, by rwa [Multiset.add_zero], fun _ => rfl⟩

/-- Where every allocator can take back what it gave, nothing is left out. -/
theorem Accounts.settles (h : trace.Accounts before after) (hs : Reckoning.strict) : trace.Settles before after := by
  obtain ⟨lost, ht, hl⟩ := h
  rwa [hl hs, Multiset.add_zero] at ht

theorem Accounts.append (hf : first.Accounts before between) (hl : last.Accounts between after) :
    (first ++ last).Accounts before after := by
  obtain ⟨lost, hf, hz⟩ := hf
  obtain ⟨lost', hl, hz'⟩ := hl
  refine ⟨lost' + lost, settles_append_iff.2 ⟨_, hf, ?_⟩, fun hs => by rw [hz hs, hz' hs, Multiset.add_zero]⟩
  rw [← Multiset.add_assoc]
  exact hl.frame lost

theorem Accounts.frame (h : trace.Accounts before after) (others : Ledger) :
    trace.Accounts (before + others) (after + others) := by
  obtain ⟨lost, h, hz⟩ := h
  refine ⟨lost, ?_, hz⟩
  have := h.frame others
  rwa [Multiset.add_assoc, Multiset.add_comm lost, ← Multiset.add_assoc] at this

theorem Accounts.occupies (h : trace.Accounts before after) (ho : before.Occupies places) (hf : trace.Fresh places) :
    after.Occupies (held places trace) := by
  obtain ⟨lost, h, -⟩ := h
  exact (h.occupies ho hf).of_add_left

theorem Accounts.spares (h : trace.Accounts before after) (ho : Ledger.Occupies (before + others) places)
    (hf : trace.Fresh places) {grant : Grant} (hg : grant ∈ others) :
    ∀ exchange ∈ trace, exchange.returned? ≠ some grant.address := by
  obtain ⟨lost, h, -⟩ := h
  exact h.spares ho hf hg

end Trace

end VulkanBridge
