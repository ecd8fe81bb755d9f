import VulkanBridge.Proofs.Allocation
import Mathlib.Data.Multiset.Filter
/-!
# Memory of the native driver

The native driver may allocate, free and tell of internal allocations through callbacks that it is handed
(`NativeCallbacks.Serves`). How much it asks for, and in what order, is its own affair; but it gives back what it holds and
nothing else. Then the application's callbacks see every block come and go (`Serves1.settles`), and whoever was told of an
internal allocation is told of its end (`Serves1.tells`), as long as there are functions to call.

An exchange alone does not say which callbacks it went through: two records may share a function and their user data, and
only one of them have a function for the end. So an exchange is accounted for together with its callbacks (`Service`).
-/

namespace VulkanBridge

/-! ## Steps along a list -/

/-- One entry of a list after the other takes one state to another. -/
def Takes {State Entry : Type} (Step : State → Entry → State → Prop) (before : State) : List Entry → State → Prop
  | [], after => before = after
  | entry :: rest, after => ∃ between, Step before entry between ∧ Takes Step between rest after

namespace Takes

variable {State Entry : Type} {Step : State → Entry → State → Prop} {before after : State} {entries first last : List Entry}

theorem append_iff :
    Takes Step before (first ++ last) after ↔ ∃ between, Takes Step before first between ∧ Takes Step between last after := by
  induction first generalizing before with
  | nil => simp [Takes]
  | cons entry rest ih =>
    simp only [List.cons_append, Takes, ih]
    constructor
    · rintro ⟨next, he, between, hf, hl⟩
      exact ⟨between, ⟨next, he, hf⟩, hl⟩
    · rintro ⟨between, ⟨next, he, hf⟩, hl⟩
      exact ⟨next, he, between, hf, hl⟩

/-- Entries that change nothing may be left out. -/
theorem filter_iff {p : Entry → Bool} (h : ∀ entry, p entry = false → ∀ before after, Step before entry after ↔ before = after) :
    Takes Step before (entries.filter p) after ↔ Takes Step before entries after := by
  induction entries generalizing before with
  | nil => rfl
  | cons entry rest ih =>
    cases hp : p entry with
    | true =>
      rw [List.filter_cons_of_pos hp]
      simp only [Takes, ih]
    | false =>
      rw [List.filter_cons_of_neg (by simp [hp])]
      simp only [Takes, ih, h entry hp, exists_eq_left']

/-- Steps that are always possible can be taken along every list. -/
theorem foldl {Inner : Type} {view : Inner → State} {next : Inner → Entry → Inner}
    (h : ∀ inner entry, Step (view inner) entry (view (next inner entry))) (entries : List Entry) (inner : Inner) :
    Takes Step (view inner) entries (view (entries.foldl next inner)) := by
  induction entries generalizing inner with
  | nil => rfl
  | cons entry rest ih => exact ⟨_, h inner entry, ih _⟩

/-- What no step touches stays. -/
theorem frame {Item : Type} {Step : Multiset Item → Entry → Multiset Item → Prop} {before after : Multiset Item}
    (hstep : ∀ before entry after others, Step before entry after → Step (before + others) entry (after + others))
    (h : Takes Step before entries after) (others : Multiset Item) : Takes Step (before + others) entries (after + others) := by
  induction entries generalizing before with
  | nil => exact congrArg (· + others) h
  | cons entry rest ih =>
    obtain ⟨between, he, hr⟩ := h
    exact ⟨between + others, hstep _ _ _ _ he, ih hr⟩

end Takes

/-! ## Services -/

/-- An exchange with the application, and the callbacks that the native driver asks through. -/
structure Service where
  callbacks : Callbacks
  exchange : Exchange

/-- The exchanges of a trace, all through the same callbacks. -/
def Callbacks.services (callbacks : Callbacks) (trace : Trace) : List Service := trace.map (⟨callbacks, ·⟩)

/-- What a service does to the blocks held: each goes back through the callbacks that it came from. -/
inductive Service.Settles : Ledger → Service → Ledger → Prop
  | obtain {ledger : Ledger} {service : Service} {grant : Grant} :
      grant.ObtainedBy service.exchange → grant.allocator = .custom service.callbacks →
        Settles ledger service (grant ::ₘ ledger)
  | giveBack {ledger : Ledger} {service : Service} {grant : Grant} :
      grant.ReturnedBy service.exchange → grant.allocator = .custom service.callbacks →
        Settles (grant ::ₘ ledger) service ledger
  | still {ledger : Ledger} {service : Service} :
      service.exchange.obtained? = none → service.exchange.returned? = none → Settles ledger service ledger

/-- An internal allocation that somebody was told of. -/
structure Note where
  told : InternalNotifications
  size : UInt64
  kind : InternalKind
  scope : Scope
  deriving DecidableEq

/-- The service tells those that its callbacks name of this internal allocation. -/
def Note.AnnouncedBy (note : Note) : Service → Prop
  | ⟨callbacks, .callback (.internalAllocation function userData size kind scope), _⟩ =>
    ∃ told ∈ callbacks.internal, note = ⟨told, size, kind, scope⟩ ∧ told.allocation = some function ∧ told.userData = userData
  | _ => False

/-- The service tells those that its callbacks name that this internal allocation has ended. -/
def Note.EndedBy (note : Note) : Service → Prop
  | ⟨callbacks, .callback (.internalFree function userData size kind scope), _⟩ =>
    ∃ told ∈ callbacks.internal, note = ⟨told, size, kind, scope⟩ ∧ told.free = some function ∧ told.userData = userData
  | _ => False

/-- Somebody is told of an internal allocation or of its end. -/
def Exchange.isNotification : Exchange → Bool
  | ⟨.callback (.internalAllocation ..), _⟩ | ⟨.callback (.internalFree ..), _⟩ => true
  | _ => false

/-- What a service does to the notes whose end is still to come. Those that cannot be told the end do not wait for it. -/
inductive Service.Tells : Multiset Note → Service → Multiset Note → Prop
  | announce {notes : Multiset Note} {service : Service} {note : Note} :
      note.AnnouncedBy service → note.told.free.isSome → Tells notes service (note ::ₘ notes)
  | mention {notes : Multiset Note} {service : Service} {note : Note} :
      note.AnnouncedBy service → note.told.free = none → Tells notes service notes
  | finish {notes : Multiset Note} {service : Service} {note : Note} :
      note.EndedBy service → Tells (note ::ₘ notes) service notes
  | still {notes : Multiset Note} {service : Service} : service.exchange.isNotification = false → Tells notes service notes

namespace Service

variable {services : List Service}

theorem Settles.frame {before after : Ledger} {service : Service} (h : Settles before service after)
    (others : Ledger) : Settles (before + others) service (after + others) := by
  cases h with
  | obtain hg ha => rw [Multiset.cons_add]; exact .obtain hg ha
  | giveBack hg ha => rw [Multiset.cons_add]; exact .giveBack hg ha
  | still ho hr => exact .still ho hr

theorem Tells.frame {before after : Multiset Note} {service : Service} (h : Tells before service after)
    (others : Multiset Note) : Tells (before + others) service (after + others) := by
  cases h with
  | announce hn hf => rw [Multiset.cons_add]; exact .announce hn hf
  | mention hn hf => exact .mention hn hf
  | finish hn => rw [Multiset.cons_add]; exact .finish hn
  | still hn => exact .still hn

/-- Blocks that services do not touch stay held. -/
theorem frame_settles {before after : Ledger} (h : Takes Settles before services after) (others : Ledger) :
    Takes Settles (before + others) services (after + others) :=
  Takes.frame (fun _ _ _ others h => h.frame others) h others

/-- Notes that services do not touch stay. -/
theorem frame_tells {before after : Multiset Note} (h : Takes Tells before services after) (others : Multiset Note) :
    Takes Tells (before + others) services (after + others) :=
  Takes.frame (fun _ _ _ others h => h.frame others) h others

end Service

/-! ## Calls of callbacks -/

namespace Callbacks

variable {callbacks : Callbacks} {size alignment : UInt64} {kind : InternalKind} {scope : Scope} {trace : Trace}

theorem runs_allocate {memory : Option Address} (h : (callbacks.allocate size alignment scope).Runs trace memory) :
    (∃ function, callbacks.allocation = some function ∧
        trace = [⟨.callback (.allocate function callbacks.userData size alignment scope), memory⟩]) ∨
      (trace = [] ∧ memory = none) := by
  unfold allocate at h
  split at h
  case h_1 function hf =>
    obtain ⟨answer, rest, rfl, rfl, rfl⟩ := h
    exact .inl ⟨function, hf, rfl⟩
  case h_2 =>
    obtain ⟨rfl, rfl⟩ := h
    exact .inr ⟨rfl, rfl⟩

theorem runs_release {memory : Option Address} {result : Unit} (h : (callbacks.release memory).Runs trace result) :
    (∃ function, callbacks.free = some function ∧ trace = [⟨.callback (.free function callbacks.userData memory), ()⟩]) ∨
      (callbacks.free = none ∧ trace = []) := by
  unfold release at h
  split at h
  case h_1 function hf =>
    obtain ⟨answer, rest, rfl, rfl, -⟩ := h
    exact .inl ⟨function, hf, rfl⟩
  case h_2 hf =>
    obtain ⟨rfl, -⟩ := h
    exact .inr ⟨hf, rfl⟩

/-- Whoever is to be told is told once, if they have a function for it. -/
theorem runs_notify {function : InternalNotifications → Option FunctionPointer} {call : FunctionPointer → UserData → CallbackCall}
    {result : Unit} (h : (callbacks.notify function call).Runs trace result) :
    (∃ told ∈ callbacks.internal, ∃ found, function told = some found ∧
        ∃ answer, trace = [⟨.callback (call found told.userData), answer⟩]) ∨
      ((∀ told ∈ callbacks.internal, function told = none) ∧ trace = []) := by
  rw [runs_notify_iff rfl] at h
  cases hcalled : callbacks.internal.bind fun told => (function told).map (·, told.userData) with
  | some called =>
    obtain ⟨told, ht, hmap⟩ := Option.bind_eq_some_iff.1 hcalled
    obtain ⟨found, hfound, rfl⟩ := Option.map_eq_some_iff.1 hmap
    rw [hcalled] at h
    exact .inl ⟨told, ht, found, hfound, h⟩
  | none =>
    rw [hcalled] at h
    refine .inr ⟨fun told ht => ?_, h⟩
    exact Option.map_eq_none_iff.1 (Option.bind_eq_none_iff.1 hcalled told ht)

end Callbacks

/-! ## What the native driver holds -/

/-- A block that the native driver holds, or an internal allocation of its own. -/
inductive Item where
  | block (address : Address) (layout : Layout)
  | internal (size : UInt64) (kind : InternalKind) (scope : Scope)
  deriving DecidableEq

/-- The block, as obtained through callbacks. -/
def Item.grant? (callbacks : Callbacks) : Item → Option Grant
  | block address layout => some ⟨address, .custom callbacks, layout⟩
  | internal .. => none

/-- The internal allocation, if the callbacks have somebody to tell its end. -/
def Item.note? (callbacks : Callbacks) : Item → Option Note
  | block .. => none
  | internal size kind scope => (callbacks.internal.filter (·.free.isSome)).map (⟨·, size, kind, scope⟩)

namespace Callbacks

variable (callbacks : Callbacks) (items : Multiset Item) {address : Address} {layout : Layout} {size : UInt64}
  {kind : InternalKind} {scope : Scope}

/-- The blocks among items that were obtained through callbacks. -/
def grants : Ledger := items.filterMap (Item.grant? callbacks)

/-- The internal allocations among items whose end can be told. -/
def notes : Multiset Note := items.filterMap (Item.note? callbacks)

theorem grants_block : callbacks.grants (.block address layout ::ₘ items) =
    ⟨address, .custom callbacks, layout⟩ ::ₘ callbacks.grants items :=
  Multiset.filterMap_cons_some _ _ _ rfl

theorem grants_internal : callbacks.grants (.internal size kind scope ::ₘ items) = callbacks.grants items :=
  Multiset.filterMap_cons_none _ _ rfl

theorem notes_block : callbacks.notes (.block address layout ::ₘ items) = callbacks.notes items :=
  Multiset.filterMap_cons_none _ _ rfl

theorem notes_internal {told : InternalNotifications} (h : told ∈ callbacks.internal) (hf : told.free.isSome) :
    callbacks.notes (.internal size kind scope ::ₘ items) = ⟨told, size, kind, scope⟩ ::ₘ callbacks.notes items :=
  Multiset.filterMap_cons_some _ _ _ (by rw [Item.note?, h, Option.filter_some, if_pos hf]; rfl)

theorem notes_internal_of_mute (h : ∀ told ∈ callbacks.internal, told.free = none) :
    callbacks.notes (.internal size kind scope ::ₘ items) = callbacks.notes items := by
  refine Multiset.filterMap_cons_none _ _ ?_
  rw [Item.note?, Option.filter_eq_none_iff.2 fun told ht => by simp [h told ht]]
  rfl

end Callbacks

/-- What was obtained through these callbacks can be given back to them, and whoever they tell the end of an internal
allocation they have told of its beginning. -/
structure Callbacks.Complete (callbacks : Callbacks) : Prop where
  free : callbacks.free.isSome
  told : ∀ told ∈ callbacks.internal, told.allocation.isSome

namespace NativeCallbacks

/-- One thing that the native driver can do with callbacks: what it asks of the application, and what it holds before and
after. -/
inductive Serves1 (callbacks : NativeCallbacks) : Multiset Item → Trace → Multiset Item → Prop
  | obtain {items : Multiset Item} {size alignment : UInt64} {scope : Scope} {trace : Trace} {address : Address} :
      (callbacks.allocate size alignment scope).Runs trace (some address) →
        Serves1 callbacks items trace (.block address ⟨size, alignment⟩ ::ₘ items)
  | refused {items : Multiset Item} {size alignment : UInt64} {scope : Scope} {trace : Trace} :
      (callbacks.allocate size alignment scope).Runs trace none → Serves1 callbacks items trace items
  | giveBack {items : Multiset Item} {trace : Trace} {address : Address} {layout : Layout} :
      (callbacks.release (some address)).Runs trace () → Serves1 callbacks (.block address layout ::ₘ items) trace items
  | announce {items : Multiset Item} {size : UInt64} {kind : InternalKind} {scope : Scope} {trace : Trace} :
      (callbacks.notifyAllocation size kind scope).Runs trace () →
        Serves1 callbacks items trace (.internal size kind scope ::ₘ items)
  | finish {items : Multiset Item} {size : UInt64} {kind : InternalKind} {scope : Scope} {trace : Trace} :
      (callbacks.notifyFree size kind scope).Runs trace () →
        Serves1 callbacks (.internal size kind scope ::ₘ items) trace items

/-- What the native driver does with callbacks, one thing after the other. -/
inductive Serves (callbacks : NativeCallbacks) : Multiset Item → Trace → Multiset Item → Prop
  | nothing (items : Multiset Item) : Serves callbacks items [] items
  | step {before between after : Multiset Item} {first rest : Trace} :
      callbacks.Serves1 before first between → Serves callbacks between rest after →
        Serves callbacks before (first ++ rest) after

variable {callbacks : NativeCallbacks} {before after : Multiset Item} {trace : Trace}

/-- One thing that the native driver does settles what it holds. -/
theorem Serves1.settles (h : callbacks.Serves1 before trace after) (hc : callbacks.target.Complete) :
    Takes Service.Settles (callbacks.target.grants before) (callbacks.target.services trace)
      (callbacks.target.grants after) := by
  cases h with
  | obtain h =>
    rw [Callbacks.grants_block]
    obtain ⟨function, hf, rfl⟩ | ⟨-, hn⟩ := Callbacks.runs_allocate h
    · exact ⟨_, .obtain ⟨callbacks.target, rfl, hf, rfl⟩ rfl, rfl⟩
    · cases hn
  | refused h =>
    obtain ⟨function, -, rfl⟩ | ⟨rfl, -⟩ := Callbacks.runs_allocate h
    · exact ⟨_, .still rfl rfl, rfl⟩
    · rfl
  | giveBack h =>
    rw [Callbacks.grants_block]
    obtain ⟨function, hf, rfl⟩ | ⟨hn, -⟩ := Callbacks.runs_release h
    · exact ⟨_, .giveBack ⟨callbacks.target, _, rfl, hf, rfl⟩ rfl, rfl⟩
    · have := hc.free
      rw [hn] at this
      cases this
  | announce h =>
    rw [Callbacks.grants_internal]
    obtain ⟨told, -, function, -, _, rfl⟩ | ⟨-, rfl⟩ := Callbacks.runs_notify h
    · exact ⟨_, .still rfl rfl, rfl⟩
    · rfl
  | finish h =>
    rw [Callbacks.grants_internal]
    obtain ⟨told, -, function, -, _, rfl⟩ | ⟨-, rfl⟩ := Callbacks.runs_notify h
    · exact ⟨_, .still rfl rfl, rfl⟩
    · rfl

/-- One thing that the native driver does tells of what it holds. -/
theorem Serves1.tells (h : callbacks.Serves1 before trace after) (hc : callbacks.target.Complete) :
    Takes Service.Tells (callbacks.target.notes before) (callbacks.target.services trace) (callbacks.target.notes after) := by
  cases h with
  | obtain h =>
    rw [Callbacks.notes_block]
    obtain ⟨function, -, rfl⟩ | ⟨rfl, -⟩ := Callbacks.runs_allocate h
    · exact ⟨_, .still rfl, rfl⟩
    · rfl
  | refused h =>
    obtain ⟨function, -, rfl⟩ | ⟨rfl, -⟩ := Callbacks.runs_allocate h
    · exact ⟨_, .still rfl, rfl⟩
    · rfl
  | giveBack h =>
    rw [Callbacks.notes_block]
    obtain ⟨function, -, rfl⟩ | ⟨-, rfl⟩ := Callbacks.runs_release h
    · exact ⟨_, .still rfl, rfl⟩
    · rfl
  | announce h =>
    obtain ⟨told, ht, function, hf, _, rfl⟩ | ⟨hn, rfl⟩ := Callbacks.runs_notify h
    · cases hfree : told.free with
      | some free =>
        have hfree : told.free.isSome := Option.isSome_of_eq_some hfree
        rw [Callbacks.notes_internal _ _ ht hfree]
        exact ⟨_, .announce ⟨told, ht, rfl, hf, rfl⟩ hfree, rfl⟩
      | none =>
        rw [Callbacks.notes_internal_of_mute _ _ fun other ho => Option.mem_unique ho ht ▸ hfree]
        exact ⟨_, .mention ⟨told, ht, rfl, hf, rfl⟩ hfree, rfl⟩
    · -- Those that are not told of the beginning are nobody.
      rw [Callbacks.notes_internal_of_mute _ _ fun told ht => absurd (hc.told told ht) (by simp [hn told ht])]
      rfl
  | finish h =>
    obtain ⟨told, ht, function, hf, _, rfl⟩ | ⟨hn, rfl⟩ := Callbacks.runs_notify h
    · rw [Callbacks.notes_internal _ _ ht (Option.isSome_of_eq_some hf)]
      exact ⟨_, .finish ⟨told, ht, rfl, hf, rfl⟩, rfl⟩
    · rw [Callbacks.notes_internal_of_mute _ _ hn]
      rfl

/-- What each thing that the native driver does comes to in an account, all of them come to. -/
theorem Serves.takes {State : Type} {Step : State → Service → State → Prop} {account : Multiset Item → State}
    (hstep : ∀ {before after trace}, callbacks.Serves1 before trace after →
      Takes Step (account before) (callbacks.target.services trace) (account after))
    (h : callbacks.Serves before trace after) :
    Takes Step (account before) (callbacks.target.services trace) (account after) := by
  induction h with
  | nothing items => rfl
  | step hs _ ih =>
    rw [Callbacks.services, List.map_append]
    exact Takes.append_iff.2 ⟨_, hstep hs, ih⟩

end NativeCallbacks

end VulkanBridge
