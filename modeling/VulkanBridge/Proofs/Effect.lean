import VulkanBridge.Proofs.Ledger
/-!
# Effects of traces

What a trace does to the outside, in three parts: the memory it obtains and gives back, the native objects it
creates, lists and destroys, and whether it ever finds a handle missing from a registry that ought to know it.
`Trace.Effect` holds the three together, so that each function needs one theorem about its traces. Effects are
stated for the blocks a function itself handles; the others come back in with `Effect.frame`.

A `Plain` exchange has no effect at all.
-/

namespace VulkanBridge

namespace Exchange

/-- A call of the native driver with its answer. -/
def native (call : NativeCall) (answer : call.Answer) : Exchange := ⟨.native call, answer⟩

/-- Calls of the native driver give no block back. -/
theorem returned?_native (call : NativeCall) (answer : call.Answer) (address : Address) :
    (native call answer).returned? ≠ some address := by
  intro h
  cases h

/-- A native object is created or destroyed, or the physical devices of one are listed. -/
def isLifecycle : Exchange → Bool
  | ⟨.native (.createInstance ..), _⟩ | ⟨.native (.destroyInstance ..), _⟩ => true
  | ⟨.native (.createDevice ..), _⟩ | ⟨.native (.destroyDevice ..), _⟩ => true
  | ⟨.native (.createPool ..), _⟩ | ⟨.native (.destroyPool ..), _⟩ => true
  | ⟨.native (.createFence ..), _⟩ | ⟨.native (.destroyFence ..), _⟩ => true
  | ⟨.native (.listPhysicalDevices ..), .ok _⟩ => true
  | _ => false

/-- A registry did not know a handle that it was asked to give up. -/
def isAlarm : Exchange → Bool
  | ⟨.notice (.releaseUnregistered _), _⟩ | ⟨.notice (.poolUnregistered _), _⟩ => true
  | _ => false

/-- Nothing obtained, given back, created, listed or destroyed, and no alarm. -/
structure Plain (exchange : Exchange) : Prop where
  obtained : exchange.obtained? = none
  returned : exchange.returned? = none
  lifecycle : exchange.isLifecycle = false
  alarm : exchange.isAlarm = false

end Exchange

namespace Trace

/-- The creations, listings and destructions of native objects, in order. -/
def lifecycle (trace : Trace) : Trace := trace.filter Exchange.isLifecycle

@[simp] theorem lifecycle_append (first last : Trace) : (first ++ last).lifecycle = first.lifecycle ++ last.lifecycle :=
  List.filter_append ..

theorem mem_lifecycle {trace : Trace} {exchange : Exchange} (hm : exchange ∈ trace) (h : exchange.isLifecycle = true) :
    exchange ∈ trace.lifecycle :=
  List.mem_filter.2 ⟨hm, h⟩

/-- No handle was missing from a registry. -/
def Quiet (trace : Trace) : Prop := ∀ exchange ∈ trace, exchange.isAlarm = false

/-- A trace without any effect. -/
def Idle (trace : Trace) : Prop := ∀ exchange ∈ trace, exchange.Plain

@[simp] theorem idle_nil : Idle [] := by simp [Idle]

@[simp] theorem idle_cons_iff {exchange : Exchange} {rest : Trace} :
    Idle (exchange :: rest) ↔ exchange.Plain ∧ Idle rest := by
  simp [Idle]

@[simp] theorem idle_append_iff {first last : Trace} : Idle (first ++ last) ↔ first.Idle ∧ last.Idle := by
  simp only [Idle, List.mem_append]
  constructor
  · exact fun h => ⟨fun e he => h e (.inl he), fun e he => h e (.inr he)⟩
  · rintro ⟨hf, hl⟩ e (he | he)
    · exact hf e he
    · exact hl e he

theorem Idle.settles {trace : Trace} (h : trace.Idle) (ledger : Ledger) : trace.Settles ledger ledger := by
  induction trace with
  | nil => rfl
  | cons exchange rest ih =>
    obtain ⟨he, hr⟩ := idle_cons_iff.1 h
    exact ⟨ledger, .still he.obtained he.returned, ih hr⟩

/-- A call of the native driver gives nothing back ahead of a trace that does not. -/
theorem spares_native_append {call : NativeCall} {answer : call.Answer} {rest : Trace} {address : Address}
    (h : ∀ exchange ∈ rest, exchange.returned? ≠ some address) :
    ∀ exchange ∈ [.native call answer] ++ rest, exchange.returned? ≠ some address := by
  intro exchange hm
  obtain hm | hm := List.mem_append.1 hm
  · rw [List.mem_singleton.1 hm]
    exact Exchange.returned?_native call answer address
  · exact h exchange hm

/-- The creations and destructions of a creation that fails: the native object is not made, or destroyed again with
the callbacks it was made with, or leaked. -/
inductive Abandons (create : Except FailureCode NativeHandle → Exchange) (destroy : NativeHandle → Exchange)
    (leaked : NativeHandle → Prop) : Trace → Prop
  | unasked : Abandons create destroy leaked []
  | refused (code : FailureCode) : Abandons create destroy leaked [create (.error code)]
  | undone (native : NativeHandle) : Abandons create destroy leaked [create (.ok native), destroy native]
  | leaked {native : NativeHandle} : leaked native → Abandons create destroy leaked [create (.ok native)]

theorem Abandons.mono {create : Except FailureCode NativeHandle → Exchange} {destroy : NativeHandle → Exchange}
    {leaked leaked' : NativeHandle → Prop} {natives : Trace} (h : Abandons create destroy leaked natives)
    (hm : ∀ native, leaked native → leaked' native) : Abandons create destroy leaked' natives := by
  cases h with
  | unasked => exact .unasked
  | refused code => exact .refused code
  | undone native => exact .undone native
  | leaked hl => exact .leaked (hm _ hl)

variable [Reckoning]

/-- What a trace does to memory and to native objects, without an alarm. -/
structure Effect (before : Ledger) (trace : Trace) (natives : Trace) (after : Ledger) : Prop where
  accounts : trace.Accounts before after
  lifecycle : trace.lifecycle = natives
  quiet : trace.Quiet

theorem Idle.effect {trace : Trace} (h : trace.Idle) (ledger : Ledger) : trace.Effect ledger [] ledger where
  accounts := (h.settles ledger).accounts
  lifecycle := List.filter_eq_nil_iff.2 fun exchange he => by simp [(h exchange he).lifecycle]
  quiet exchange he := (h exchange he).alarm

namespace Effect

variable {before between after : Ledger} {first last trace earlier later natives : Trace}

theorem nil (ledger : Ledger) : Effect ledger [] [] ledger := idle_nil.effect ledger

theorem append (hf : first.Effect before earlier between) (hl : last.Effect between later after) :
    (first ++ last).Effect before (earlier ++ later) after where
  accounts := hf.accounts.append hl.accounts
  lifecycle := by rw [lifecycle_append, hf.lifecycle, hl.lifecycle]
  quiet exchange he := (List.mem_append.1 he).elim (hf.quiet exchange) (hl.quiet exchange)

/-- An effect after an idle trace. -/
theorem after_idle (hf : first.Idle) (hl : last.Effect before natives after) :
    (first ++ last).Effect before natives after :=
  (hf.effect before).append hl

/-- An effect before an idle trace. -/
theorem before_idle (hf : first.Effect before natives after) (hl : last.Idle) :
    (first ++ last).Effect before natives after :=
  List.append_nil natives ▸ hf.append (hl.effect after)

/-- Blocks that a trace does not touch stay held. -/
theorem frame (h : trace.Effect before natives after) (others : Ledger) :
    trace.Effect (before + others) natives (after + others) :=
  ⟨h.accounts.frame others, h.lifecycle, h.quiet⟩

/-- Blocks obtained on top of those held. -/
theorem obtain_more {more : Ledger} (hf : first.Effect before earlier between) (hl : last.Effect 0 later more) :
    (first ++ last).Effect before (earlier ++ later) (between + more) := by
  have := hl.frame between
  rw [Multiset.zero_add, Multiset.add_comm] at this
  exact hf.append this

/-- Some of the blocks held given back. -/
theorem give_back {some' : Ledger} (hf : first.Effect before earlier (between + some')) (hl : last.Effect some' later 0) :
    (first ++ last).Effect before (earlier ++ later) between := by
  have := hl.frame between
  rw [Multiset.zero_add, Multiset.add_comm] at this
  exact hf.append this

/-- Some blocks given back, and then others. -/
theorem both {others : Ledger} (hf : first.Effect before earlier 0) (hl : last.Effect others later 0) :
    (first ++ last).Effect (before + others) (earlier ++ later) 0 := by
  have := hf.frame others
  rw [Multiset.zero_add] at this
  exact this.append hl

/-- Native objects are created, listed or destroyed; memory stays as it is. -/
theorem native {call : NativeCall} {answer : call.Answer} (h : (Exchange.native call answer).isLifecycle = true)
    (ledger : Ledger) : Effect ledger [.native call answer] [.native call answer] ledger where
  accounts := Settles.accounts ⟨ledger, .still rfl rfl, rfl⟩
  lifecycle := List.filter_cons_of_pos h
  quiet exchange he := by
    rw [List.mem_singleton.1 he]
    rfl

end Effect

end Trace

end VulkanBridge
