import VulkanBridge.Proofs.Allocation
import Mathlib.Data.List.Induction
/-!
# Inheritance of callbacks

An object's allocator is what `Allocator.merge` makes of the callbacks that were passed for it and of the allocator of its
parent, whose allocator came about in the same way. `inherit` goes down such a chain from the process's own allocator.

`inherit_spec` says what is found at its end: the last set that was passed, with the notifications of the last set that
has some; and that the native driver's invocations of callbacks reach the functions of these two sets, once each.
-/

namespace VulkanBridge

/-! ## Invocations -/

/-- An invocation of a callback by the native driver, with all arguments but the context. -/
inductive Invocation where
  | allocate (size alignment : UInt64) (scope : Scope)
  | reallocate (old : Option Address) (size alignment : UInt64) (scope : Scope)
  | release (memory : Option Address)
  | notifyAllocation (size : UInt64) (kind : InternalKind) (scope : Scope)
  | notifyFree (size : UInt64) (kind : InternalKind) (scope : Scope)

namespace Invocation

/-- Memory or null for allocations, nothing for the others. -/
def Answer : Invocation → Type
  | allocate .. | reallocate .. => Option Address
  | release _ | notifyAllocation .. | notifyFree .. => Unit

/-- What runs when the native driver invokes a callback that it was handed. -/
def run (callbacks : NativeCallbacks) : (invocation : Invocation) → Program invocation.Answer
  | allocate size alignment scope => callbacks.allocate size alignment scope
  | reallocate old size alignment scope => callbacks.reallocate old size alignment scope
  | release memory => callbacks.release memory
  | notifyAllocation size kind scope => callbacks.notifyAllocation size kind scope
  | notifyFree size kind scope => callbacks.notifyFree size kind scope

/-- What the application is asked, and what is answered, if its primary functions are those of one set and another set, if
there is one, is told of internal allocations. A function that is missing is not called, and allocates nothing. -/
def Forwards (set : CallbackSet) (notified : Option CallbackSet) :
    (invocation : Invocation) → Trace → invocation.Answer → Prop
  | allocate size alignment scope, trace, memory =>
    match set.allocation with
    | some function => trace = [⟨.callback (.allocate function set.userData size alignment scope), memory⟩]
    | none => trace = [] ∧ memory = none
  | reallocate old size alignment scope, trace, memory =>
    match set.reallocation with
    | some function => trace = [⟨.callback (.reallocate function set.userData old size alignment scope), memory⟩]
    | none => trace = [] ∧ memory = none
  | release memory, trace, _ =>
    match set.free with
    | some function => trace = [⟨.callback (.free function set.userData memory), ()⟩]
    | none => trace = []
  | notifyAllocation size kind scope, trace, _ =>
    match notified.bind fun told => told.internalAllocation.map (·, told.userData) with
    | some (function, userData) => trace = [⟨.callback (.internalAllocation function userData size kind scope), ()⟩]
    | none => trace = []
  | notifyFree size kind scope, trace, _ =>
    match notified.bind fun told => told.internalFree.map (·, told.userData) with
    | some (function, userData) => trace = [⟨.callback (.internalFree function userData size kind scope), ()⟩]
    | none => trace = []

end Invocation

/-! ## Chains -/

/-- The pair of notifications of a set. -/
def CallbackSet.notifications (set : CallbackSet) : InternalNotifications :=
  ⟨set.userData, set.internalAllocation, set.internalFree⟩

/-- The callbacks of one set with the notifications of another, if there is one. -/
def CallbackSet.resolved (set : CallbackSet) (notified : Option CallbackSet) : Callbacks :=
  ⟨set.userData, set.allocation, set.reallocation, set.free, notified.map (·.notifications)⟩

/-- The last set that was passed. -/
def lastPassed (chain : List (Option CallbackSet)) : Option CallbackSet := (chain.filterMap id).getLast?

/-- The last set that was passed and is to be told of internal allocations. -/
def lastNotified (chain : List (Option CallbackSet)) : Option CallbackSet :=
  ((chain.filterMap id).filter (·.internalAllocation.isSome)).getLast?

namespace Allocator

variable {chain : List (Option CallbackSet)} {explicit : Option CallbackSet} {set : CallbackSet} {parent : Allocator}

/-- The allocator at the end of a chain of objects, each the parent of the next. -/
def inherit (chain : List (Option CallbackSet)) : Allocator := chain.foldl (fun parent explicit => merge explicit parent) system

theorem inherit_append (chain : List (Option CallbackSet)) (explicit : Option CallbackSet) :
    inherit (chain ++ [explicit]) = merge explicit (inherit chain) := by
  rw [inherit, List.foldl_append]
  rfl

theorem lastPassed_append (chain : List (Option CallbackSet)) (explicit : Option CallbackSet) :
    lastPassed (chain ++ [explicit]) = explicit.or (lastPassed chain) := by
  cases explicit <;> simp [lastPassed]

theorem lastNotified_append (chain : List (Option CallbackSet)) (explicit : Option CallbackSet) :
    lastNotified (chain ++ [explicit]) = (explicit.filter (·.internalAllocation.isSome)).or (lastNotified chain) := by
  unfold lastNotified
  cases explicit with
  | none => simp
  | some set => by_cases h : set.internalAllocation.isSome <;> simp [Option.filter, h]

theorem lastPassed_eq_none_iff : lastPassed chain = none ↔ ∀ explicit ∈ chain, explicit = none := by
  rw [lastPassed, List.getLast?_eq_none_iff, List.filterMap_eq_nil_iff]
  rfl

/-- Sets to be told are among the sets that were passed. -/
theorem lastNotified_of_lastPassed_eq_none (h : lastPassed chain = none) : lastNotified chain = none := by
  rw [lastPassed, List.getLast?_eq_none_iff] at h
  rw [lastNotified, h]
  rfl

/-- What a chain comes to: the process's allocator, or the last set with the last notifications. -/
theorem inherit_eq (chain : List (Option CallbackSet)) :
    inherit chain = (lastPassed chain).elim system fun set => custom (set.resolved (lastNotified chain)) := by
  induction chain using List.reverseRecOn with
  | nil => rfl
  | append_singleton chain explicit ih =>
    have hinternal : (inherit chain).internal? = (lastNotified chain).map (·.notifications) := by
      rw [ih]
      cases h : lastPassed chain with
      | none =>
        rw [lastNotified_of_lastPassed_eq_none h]
        rfl
      | some set => rfl
    rw [inherit_append, lastPassed_append, lastNotified_append]
    cases explicit with
    | none => exact ih
    | some set =>
      simp only [merge, Option.some_or, Option.elim_some, CallbackSet.resolved, hinternal]
      by_cases h : set.internalAllocation.isSome <;> simp [h, Option.filter, CallbackSet.notifications]

theorem inherit_eq_system_iff : inherit chain = system ↔ ∀ explicit ∈ chain, explicit = none := by
  rw [inherit_eq, ← lastPassed_eq_none_iff]
  cases lastPassed chain <;> simp

theorem nativeCallbacks_eq_none_iff {allocator : Allocator} {context : CallbackContext} :
    allocator.nativeCallbacks context = none ↔ allocator = system := by
  cases allocator <;> simp [nativeCallbacks, callbacks?]

end Allocator

/-! ## Forwarding -/

namespace Invocation

variable {set : CallbackSet} {notified : Option CallbackSet} {context : CallbackContext} {trace : Trace}

theorem runs_null_iff {memory : Option Address} :
    (Program.done none : Program (Option Address)).Runs trace memory ↔ trace = [] ∧ memory = none := by
  rw [Program.runs_done_iff, @eq_comm _ none]

theorem runs_nothing_iff {result : Unit} : (Program.done () : Program Unit).Runs trace result ↔ trace = [] :=
  and_iff_left rfl

/-- An invocation is forwarded to the functions of the two sets. -/
theorem run_iff (invocation : Invocation) (result : invocation.Answer) :
    (invocation.run ⟨context, set.resolved notified⟩).Runs trace result ↔
      invocation.Forwards set notified trace result := by
  cases invocation with
  | allocate size alignment scope =>
    show (Callbacks.allocate _ size alignment scope).Runs trace result ↔ _
    unfold Callbacks.allocate Forwards CallbackSet.resolved
    cases set.allocation with
    | none => exact runs_null_iff
    | some function => exact Program.runs_request_iff
  | reallocate old size alignment scope =>
    show (Callbacks.reallocate _ old size alignment scope).Runs trace result ↔ _
    unfold Callbacks.reallocate Forwards CallbackSet.resolved
    cases set.reallocation with
    | none => exact runs_null_iff
    | some function => exact Program.runs_request_iff
  | release memory =>
    show (Callbacks.release _ memory).Runs trace result ↔ _
    unfold Callbacks.release Forwards CallbackSet.resolved
    cases set.free with
    | none => exact runs_nothing_iff
    | some function => exact Program.runs_request_iff
  | notifyAllocation size kind scope =>
    have hfound : ((set.resolved notified).internal.bind fun told => told.allocation.map (·, told.userData)) =
        notified.bind fun told => told.internalAllocation.map (·, told.userData) := Option.bind_map
    refine (Callbacks.runs_notify_iff hfound).trans ?_
    unfold Forwards
    cases notified.bind fun told => told.internalAllocation.map (·, told.userData) with
    | none => rfl
    | some found => exact ⟨fun ⟨_, h⟩ => h, fun h => ⟨(), h⟩⟩
  | notifyFree size kind scope =>
    have hfound : ((set.resolved notified).internal.bind fun told => told.free.map (·, told.userData)) =
        notified.bind fun told => told.internalFree.map (·, told.userData) := Option.bind_map
    refine (Callbacks.runs_notify_iff hfound).trans ?_
    unfold Forwards
    cases notified.bind fun told => told.internalFree.map (·, told.userData) with
    | none => rfl
    | some found => exact ⟨fun ⟨_, h⟩ => h, fun h => ⟨(), h⟩⟩

end Invocation

/-! ## The end of a chain -/

theorem isSome_of_lastNotified {chain : List (Option CallbackSet)} {told : CallbackSet} (h : lastNotified chain = some told) :
    told.internalAllocation.isSome := by
  unfold lastNotified at h
  exact (List.mem_filter.1 (List.mem_of_getLast? h)).2

/-- Callbacks are inherited from the last object that was passed some, and notifications from the last that was passed
some of these. The native driver is handed nothing if nothing was passed; otherwise the primary functions, and the
notifications if there are some; and each invocation calls the application's function once, if it has one, with the user
data that goes with it and the arguments of the invocation. -/
theorem inherit_spec (chain : List (Option CallbackSet)) :
    (Allocator.inherit chain = .system ↔ ∀ explicit ∈ chain, explicit = none) ∧
    (∀ set, lastPassed chain = some set → Allocator.inherit chain = .custom (set.resolved (lastNotified chain))) ∧
    (∀ told, lastNotified chain = some told → told.internalAllocation.isSome) ∧
    (∀ explicit parent,
      Allocator.merge explicit (Allocator.merge explicit parent) = Allocator.merge explicit parent ∧
        Allocator.merge none (Allocator.merge explicit parent) = Allocator.merge explicit parent) ∧
    ∀ context,
      ((Allocator.inherit chain).nativeCallbacks context = none ↔ ∀ explicit ∈ chain, explicit = none) ∧
      ∀ callbacks, (Allocator.inherit chain).nativeCallbacks context = some callbacks →
        ∃ set, lastPassed chain = some set ∧
          (∀ function, callbacks.provides function ↔
            function ∈ [.allocation, .reallocation, .free] ∨ (lastNotified chain).isSome) ∧
          ∀ (invocation : Invocation) (trace : Trace) (result : invocation.Answer),
            (invocation.run callbacks).Runs trace result ↔
              invocation.Forwards set (lastNotified chain) trace result := by
  refine ⟨Allocator.inherit_eq_system_iff, fun set h => ?_, fun told h => isSome_of_lastNotified h, fun explicit parent => ?_,
    fun context => ⟨?_, fun callbacks h => ?_⟩⟩
  · rw [Allocator.inherit_eq, h, Option.elim_some]
  · exact ⟨Allocator.merge_merge explicit parent, rfl⟩
  · rw [Allocator.nativeCallbacks_eq_none_iff, Allocator.inherit_eq_system_iff]
  · rw [Allocator.inherit_eq] at h
    cases hset : lastPassed chain with
    | none =>
      rw [hset] at h
      cases h
    | some set =>
      rw [hset, Option.elim_some] at h
      obtain rfl : (⟨context, set.resolved (lastNotified chain)⟩ : NativeCallbacks) = callbacks := Option.some.inj h
      refine ⟨set, rfl, fun function => ?_, fun invocation trace result => invocation.run_iff result⟩
      cases function <;> simp [NativeCallbacks.provides, CallbackSet.resolved]

namespace Sample

/-- Callbacks with notifications, and some without. -/
def telling : CallbackSet := ⟨⟨7⟩, some ⟨1⟩, some ⟨2⟩, some ⟨3⟩, some ⟨4⟩, none⟩

def silent : CallbackSet := ⟨⟨8⟩, some ⟨1⟩, none, some ⟨3⟩, none, none⟩

end Sample

/-- A device without callbacks of its own, under an instance that has notifications, and a pool that has none: the pool's
allocations reach its own callbacks, and its notifications those of the instance. -/
theorem inherit_spec_sample :
    lastPassed [some Sample.telling, none, some Sample.silent] = some Sample.silent ∧
    Allocator.inherit [some Sample.telling, none, some Sample.silent] =
      .custom (Sample.silent.resolved (some Sample.telling)) ∧
    Sample.telling.internalAllocation.isSome ∧
    (Allocator.inherit [some Sample.telling, none, some Sample.silent]).nativeCallbacks .call =
      some ⟨.call, Sample.silent.resolved (some Sample.telling)⟩ ∧
    ∃ set, lastPassed [some Sample.telling, none, some Sample.silent] = some set ∧
      ∀ trace, ((Invocation.notifyAllocation 64 ⟨0⟩ .object).run ⟨.call, Sample.silent.resolved (some Sample.telling)⟩).Runs
        trace () ↔ (Invocation.notifyAllocation 64 ⟨0⟩ .object).Forwards set (some Sample.telling) trace () := by
  obtain ⟨-, hcustom, htold, -, hnative⟩ := inherit_spec [some Sample.telling, none, some Sample.silent]
  obtain ⟨set, hset, -, hforwards⟩ := (hnative .call).2 ⟨.call, Sample.silent.resolved (some Sample.telling)⟩ rfl
  exact ⟨rfl, hcustom _ rfl, htold _ rfl, rfl, set, hset, fun trace => hforwards (.notifyAllocation 64 ⟨0⟩ .object) trace ()⟩

end VulkanBridge
