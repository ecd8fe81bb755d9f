import VulkanBridge.Proofs.Environment
import VulkanBridge.Proofs.Handling
import VulkanBridge.Proofs.Valid
/-!
# Recording is transparent

Each live command buffer stands for the native one that was answered when it was allocated (`nativeOf`). As long as the
native driver answers with command buffers that no live one stands for, a native command buffer receives what is issued on
the command buffer that stands for it: the same commands with the same arguments in the same order, answered with the same
codes, and nothing else (`recording_transparent`).
-/

namespace VulkanBridge

/-! ## What command buffers stand for -/

/-- The native command buffer that a handle was last given out for. -/
def assigned (handle : Handle) : List Event → Option NativeHandle
  | [] => none
  | event :: history => (event.wrapped.lookup handle).or (assigned handle history)

/-- The native command buffer that a live command buffer stands for; no other handle stands for any. -/
def nativeOf (history : List Event) (handle : Option Handle) : Option NativeHandle :=
  handle.bind fun handle => if (liveAfter history).any (·.isAt handle) then assigned handle history else none

/-! ## What is issued and what is received -/

/-- Something that a command buffer is given to do. -/
inductive Work where
  | command (command : Command) (answer : command.Answer)
  | execute (secondaries : List NativeHandle)

/-- The command, if it is one. -/
def Work.command? : Work → Option Command
  | command given _ => some given
  | execute _ => none

/-- Executing command buffers, if there are any. -/
def Work.executing : List NativeHandle → List Work
  | [] => []
  | natives => [execute natives]

/-- More secondary command buffers to execute, in one go with those that follow. -/
def Work.join (secondaries : List NativeHandle) : List Work → List Work
  | execute more :: rest => execute (secondaries ++ more) :: rest
  | rest => execute secondaries :: rest

/-- What a native command buffer receives in an exchange, before what it receives later. -/
def Exchange.receive (native : NativeHandle) (exchange : Exchange) (later : List Work) : List Work :=
  match exchange with
  | ⟨.native (.command found command), answer⟩ => if found = native then .command command answer :: later else later
  | ⟨.native (.execute found secondaries), _⟩ => if found = native then Work.join secondaries later else later
  | _ => later

/-- What a native command buffer receives during a call. -/
def Trace.received (native : NativeHandle) (trace : Trace) : List Work := trace.foldr (Exchange.receive native) []

/-- What a call gives a command buffer to do, with native command buffers in place of those it executes. Nothing is executed
if there is nothing to execute, or if one of them is not a command buffer. -/
def Event.issued (history : List Event) (handle : Handle) : Event → List Work
  | ⟨.record (some found) command, _, answer⟩ => if found = handle then [.command command answer] else []
  | ⟨.execute (some found) secondaries, _, _⟩ =>
    if found = handle then (secondaries.toList.mapM (nativeOf history)).elim [] Work.executing else []
  | _ => []

/-- What a native command buffer receives in the later events, in order. -/
def receivedIn (native : NativeHandle) : (later : List Event) → List Work
  | [] => []
  | event :: later => receivedIn native later ++ event.trace.received native

/-- What a command buffer is given to do in the later events, in order. -/
def issuedIn (handle : Handle) (earlier : List Event) : (later : List Event) → List Work
  | [] => []
  | event :: later => issuedIn handle earlier later ++ event.issued (later ++ earlier) handle

/-! ## Commands in traces -/

namespace Exchange

theorem receive_of_not {native : NativeHandle} {exchange : Exchange} (h : exchange.ofCommandBuffers = false)
    (later : List Work) : exchange.receive native later = later := by
  unfold receive
  split
  · cases h
  · cases h
  · rfl

end Exchange

namespace Trace

variable {native found : NativeHandle}

@[simp] theorem received_nil (native : NativeHandle) : received native [] = [] := rfl

theorem received_cons (native : NativeHandle) (exchange : Exchange) (rest : Trace) :
    received native (exchange :: rest) = exchange.receive native (Trace.received native rest) := rfl

/-- Only what is asked about command buffers counts. -/
theorem received_commandBuffers (native : NativeHandle) (trace : Trace) :
    trace.received native = trace.commandBuffers.received native := by
  induction trace with
  | nil => rfl
  | cons exchange rest ih =>
    rw [received_cons, ih]
    cases h : exchange.ofCommandBuffers with
    | true =>
      have : commandBuffers (exchange :: rest) = exchange :: commandBuffers rest := List.filter_cons_of_pos h
      rw [this, received_cons]
    | false =>
      have : commandBuffers (exchange :: rest) = commandBuffers rest := List.filter_cons_of_neg (by simp [h])
      rw [this, Exchange.receive_of_not h]

theorem received_command (native found : NativeHandle) (command : Command) (answer : command.Answer) :
    received native [.native (.command found command) answer] =
      if found = native then [.command command answer] else [] := rfl

theorem received_execute_ne (h : found ≠ native) (batches : List (List NativeHandle)) :
    received native (batches.map fun batch => .native (.execute found batch) ()) = [] := by
  induction batches with
  | nil => rfl
  | cons batch rest ih =>
    rw [List.map_cons, received_cons, ih]
    exact if_neg h

/-- The batches of one call are executed in one go. -/
theorem received_execute (native : NativeHandle) (batch : List NativeHandle) (batches : List (List NativeHandle)) :
    received native ((batch :: batches).map fun batch => .native (.execute native batch) ()) =
      [.execute (batch :: batches).flatten] := by
  have step (batch : List NativeHandle) (rest : Trace) :
      received native (.native (.execute native batch) () :: rest) = Work.join batch (received native rest) := if_pos rfl
  induction batches generalizing batch with
  | nil => simp [step, Work.join]
  | cons next rest ih =>
    rw [List.map_cons, step, ih, Work.join, List.flatten_cons (l := batch)]

/-- What is executed in batches is received as a whole. -/
theorem received_batches (native : NativeHandle) {size : Nat} (h : 0 < size) (natives : List NativeHandle) :
    received native ((batches size natives).map fun batch => .native (.execute native batch) ()) =
      Work.executing natives := by
  have hflatten := flatten_batches h natives
  cases hb : batches size natives with
  | nil =>
    obtain rfl : natives = [] := by rw [← hflatten, hb]; rfl
    rfl
  | cons batch rest =>
    rw [received_execute, ← hb, hflatten]
    cases natives with
    | nil => simp [batches, takeBatches, Nat.div_eq_of_lt (Nat.sub_one_lt_of_lt h)] at hb
    | cons _ _ => rfl

end Trace

section Standing

variable [Reckoning]

variable {bridge after : Bridge} {live : List Object} {history : List Event} {event : Event} {place : Address}
  {record : CommandBuffer}

/-- The latest assignment of each command buffer is the native one in its record. -/
def Assigned (history : List Event) (bridge : Bridge) : Prop :=
  ∀ (place : Address) (record : CommandBuffer), bridge.blocks[place]? = some (.commandBuffer record) →
    assigned place.toHandle history = some record.native

theorem Assigned.nativeOf_eq (h : Assigned history bridge) (ha : Agrees bridge (liveAfter history)) (hs : bridge.Sound)
    (handle : Option Handle) : nativeOf history handle = (CommandBuffer.at? bridge handle).map (·.native) := by
  cases handle with
  | none => rfl
  | some handle =>
    rw [nativeOf, Option.bind_some]
    split
    case isTrue hl =>
      obtain ⟨record, hat⟩ := Option.isSome_iff_exists.1 ((ha.any_isAt_iff hs).1 hl)
      obtain ⟨place, he, hb⟩ := CommandBuffer.at?_eq_some_iff.1 hat
      obtain rfl := Option.some.inj he
      rw [hat, h place record hb]
      rfl
    case isFalse hl =>
      rw [ha.any_isAt_iff hs, Option.not_isSome_iff_eq_none] at hl
      rw [hl]
      rfl

/-! ## One for one -/

/-- The event is proper, and the native driver answers with distinct command buffers that no live one stands for. -/
structure Event.Unshared (history : List Event) (event : Event) : Prop extends Event.Proper history event where
  natives : ∀ device request (natives : Vector NativeHandle request.count.toNat),
    .native (.allocateCommandBuffers device request) (.ok natives) ∈ event.trace →
      natives.toList.Nodup ∧ ∀ native ∈ natives.toList, ∀ handle, nativeOf history handle ≠ some native

/-- Command buffers stand for the native ones in their records, and no two for the same. -/
structure Standing (history : List Event) (bridge : Bridge) : Prop where
  assigned : Assigned history bridge
  apart : bridge.Apart

namespace Standing

omit [Reckoning] in
theorem initial : Standing [] .initial where
  apart := Bridge.apart_initial
  assigned place record h := by
    have : Bridge.initial.blocks[place]? = none := Std.ExtTreeMap.getElem?_empty
    rw [this] at h
    cases h

theorem step (h : Standing history bridge) (ha : Agrees bridge (liveAfter history)) (hs : bridge.Sound) (hs' : after.Sound)
    (hu : event.Unshared history) (hh : CommandBuffer.Handled bridge after event) : Standing (event :: history) after where
  assigned place record hb := by
    rw [VulkanBridge.assigned]
    obtain ⟨hold, hn⟩ | hnew := hh.origin hs hs' hb
    · rw [hn, Option.none_or, h.assigned place record hold]
    · rw [hnew, Option.some_or]
  apart := by
    refine hh.apart hs hs' h.apart fun device request natives hm => ?_
    obtain ⟨hn, hfresh⟩ := hu.natives device request natives hm
    refine ⟨hn, fun native hnative place record hb he => hfresh native hnative (some place.toHandle) ?_⟩
    rw [h.assigned.nativeOf_eq ha hs, CommandBuffer.at?_toHandle_iff.2 hb, ← he]
    rfl

end Standing

/-- A call has native command buffers do what it gives to the command buffers that stand for them, and nothing else. -/
structure Event.Transparent (history : List Event) (event : Event) : Prop where
  received : ∀ handle native, nativeOf history (some handle) = some native →
    event.trace.received native = event.issued history handle
  standing : ∀ native, event.trace.received native ≠ [] → ∃ handle, nativeOf history (some handle) = some native

section Transparent

omit [Reckoning]

/-- A call by which no command buffer is given anything to do. -/
theorem Event.transparent_of_nil (ht : ∀ native, event.trace.received native = [])
    (hi : ∀ handle native, nativeOf history (some handle) = some native → event.issued history handle = []) :
    event.Transparent history where
  received handle native hn := by rw [ht, hi handle native hn]
  standing native hne := absurd (ht native) hne

theorem Event.issued_record (found handle : Handle) (command : Command) (trace : Trace) (answer : command.Answer) :
    Event.issued history handle ⟨.record (some found) command, trace, answer⟩ =
      if found = handle then [.command command answer] else [] := rfl

theorem Event.issued_execute (found handle : Handle) (secondaries : Span (Option Handle)) (trace : Trace) :
    Event.issued history handle ⟨.execute (some found) secondaries, trace, ()⟩ =
      if found = handle then (secondaries.toList.mapM (nativeOf history)).elim [] Work.executing else [] := rfl

theorem Event.issued_of_not (h : event.call.ofCommandBuffers = false) (history : List Event) (handle : Handle) :
    event.issued history handle = [] := by
  unfold issued
  split
  · cases h
  · cases h
  · rfl

theorem Trace.received_of_forall {native : NativeHandle} {trace : Trace}
    (h : ∀ exchange ∈ trace, ∀ later, exchange.receive native later = later) : trace.received native = [] := by
  induction trace with
  | nil => rfl
  | cons exchange rest ih =>
    rw [received_cons, h exchange (List.mem_cons_self ..), ih fun other ho => h other (List.mem_cons_of_mem _ ho)]

end Transparent

namespace Standing

variable {found : CommandBuffer} {work : List Work}

/-- A live command buffer is the one of a handle just if it stands for the same native one. -/
theorem native_eq_iff (h : Standing history bridge) (ha : Agrees bridge (liveAfter history)) (hs : bridge.Sound)
    {handle : Handle} {native : NativeHandle} (hb : bridge.blocks[place]? = some (.commandBuffer found))
    (hn : nativeOf history (some handle) = some native) : found.native = native ↔ place.toHandle = handle := by
  rw [h.assigned.nativeOf_eq ha hs, Option.map_eq_some_iff] at hn
  obtain ⟨record, hat, rfl⟩ := hn
  obtain ⟨other, he, hb'⟩ := CommandBuffer.at?_eq_some_iff.1 hat
  obtain rfl := Option.some.inj he
  constructor
  · intro he
    rw [h.apart place other found record hb hb' he]
  · intro he
    obtain rfl := toHandle_inj.1 he
    rw [hb] at hb'
    cases hb'
    rfl

/-- A call on a live command buffer, whose native one is told to do what the call says. -/
theorem transparent_of_given (h : Standing history bridge) (ha : Agrees bridge (liveAfter history)) (hs : bridge.Sound)
    (hb : bridge.blocks[place]? = some (.commandBuffer found))
    (ht : ∀ native, event.trace.received native = if found.native = native then work else [])
    (hi : ∀ handle, event.issued history handle = if place.toHandle = handle then work else []) :
    event.Transparent history := by
  constructor
  · intro handle native hn
    rw [ht, hi]
    simp only [h.native_eq_iff ha hs hb hn]
  · intro native hne
    rw [ht] at hne
    obtain rfl : found.native = native := by
      by_contra he
      exact hne (if_neg he)
    refine ⟨place.toHandle, ?_⟩
    rw [h.assigned.nativeOf_eq ha hs, CommandBuffer.at?_toHandle_iff.2 hb]
    rfl

/-- A call on what is no live command buffer, of which the native driver hears nothing. -/
theorem transparent_of_unknown (h : Standing history bridge) (ha : Agrees bridge (liveAfter history)) (hs : bridge.Sound)
    {handle : Option Handle} (hat : CommandBuffer.at? bridge handle = none)
    (ht : ∀ native, event.trace.received native = [])
    (hi : ∀ other, handle ≠ some other → event.issued history other = []) : event.Transparent history := by
  refine Event.transparent_of_nil ht fun other native hn => hi other ?_
  rintro rfl
  rw [h.assigned.nativeOf_eq ha hs, hat] at hn
  cases hn

/-- Each event is transparent, whatever it is. -/
theorem transparent (h : Standing history bridge) (ha : Agrees bridge (liveAfter history)) (hs : bridge.Sound)
    (hh : CommandBuffer.Handled bridge after event) : event.Transparent history := by
  have hnatives (handles : List (Option Handle)) :
      CommandBuffer.nativesAt? bridge handles = handles.mapM (nativeOf history) := by
    rw [show nativeOf history = _ from funext (h.assigned.nativeOf_eq ha hs)]
    rfl
  cases hh with
  | aside hc ht =>
    refine Event.transparent_of_nil (fun native => ?_) fun handle native _ => Event.issued_of_not hc history handle
    rw [Trace.received_commandBuffers, ht]
    rfl
  | unanswered _ _ ht =>
    refine Event.transparent_of_nil (fun native => ?_) fun _ _ _ => rfl
    rw [Trace.received_commandBuffers]
    obtain ht | ⟨device, request, code, ht⟩ := ht <;> · rw [ht]; rfl
  | @allocated owner request trace code stored device changed new _ _ _ hanswered =>
    refine Event.transparent_of_nil (fun native => ?_) fun _ _ _ => rfl
    rw [Trace.received_commandBuffers]
    generalize trace.commandBuffers = asks at hanswered
    cases hanswered <;> rfl
  | spared _ _ ht _ =>
    refine Event.transparent_of_nil (fun native => ?_) fun _ _ _ => rfl
    rw [Trace.received_commandBuffers, ht]
    rfl
  | freed _ _ _ ht =>
    refine Event.transparent_of_nil (fun native => ?_) fun _ _ _ => rfl
    rw [Trace.received_commandBuffers, ht]
    refine Trace.received_of_forall fun exchange hm later => ?_
    obtain ⟨batch, -, rfl⟩ := List.mem_map.1 hm
    rfl
  | @recorded handle command trace answer found _ _ hat ht =>
    obtain ⟨place, rfl, hb⟩ := CommandBuffer.at?_eq_some_iff.1 hat
    refine h.transparent_of_given ha hs hb (fun native => ?_) fun other => Event.issued_record ..
    rw [Trace.received_commandBuffers, ht, Trace.received_command]
  | @unrecorded handle command trace answer _ _ hat ht =>
    refine h.transparent_of_unknown ha hs hat (fun native => ?_) fun other hne => ?_
    · rw [Trace.received_commandBuffers, ht]
      rfl
    · cases handle with
      | none => rfl
      | some found => rw [Event.issued_record, if_neg fun he => hne (congrArg some he)]
  | @executed handle secondaries trace found natives _ _ hat hall ht =>
    obtain ⟨place, rfl, hb⟩ := CommandBuffer.at?_eq_some_iff.1 hat
    rw [hnatives] at hall
    have hissued (other : Handle) : Event.issued history other ⟨.execute (some place.toHandle) secondaries, trace, ()⟩ =
        if place.toHandle = other then Work.executing natives else [] := by
      rw [Event.issued_execute, hall]
      rfl
    refine h.transparent_of_given ha hs hb (fun native => ?_) hissued
    rw [Trace.received_commandBuffers, ht]
    split
    case isTrue he =>
      subst he
      exact Trace.received_batches _ (by decide) natives
    case isFalse hne => exact Trace.received_execute_ne hne _
  | @unexecuted handle secondaries trace _ _ hno ht =>
    have hsilent (native : NativeHandle) : trace.received native = [] := by
      rw [Trace.received_commandBuffers, ht]
      rfl
    obtain hat | hall := hno
    · refine h.transparent_of_unknown ha hs hat hsilent fun other hne => ?_
      cases handle with
      | none => rfl
      | some found => rw [Event.issued_execute, if_neg fun he => hne (congrArg some he)]
    · refine Event.transparent_of_nil hsilent fun other native _ => ?_
      cases handle with
      | none => rfl
      | some found =>
        rw [Event.issued_execute, ← hnatives, hall]
        exact ite_self _

end Standing

/-! ## Over a whole use -/

namespace Reaches

variable {later earlier : List Event} {handle : Handle} {native : NativeHandle}

/-- Both invariants hold after all uses in which command buffers are answered for once. -/
theorem standing (h : Reaches Event.Unshared history bridge) (hn : ¬Reckoning.strict) :
    Invariant history bridge ∧ Standing history bridge := by
  induction h with
  | initial => exact ⟨.initial, .initial⟩
  | @step history before _ event _ ha hl ih =>
    obtain ⟨hi, hst⟩ := ih
    have hp := ha.toProper.permitted hi.agrees fun set _ hs => absurd hs hn
    obtain ⟨owner, natives, ho, hk⟩ := hi.outcome hp ha.fresh hl
    have hi' := hi.step ho ha.fresh hk
    exact ⟨hi', hst.step hi.agrees hi.sound hi'.sound ha (CommandBuffer.handled hi.sound hi.occupies ha.fresh hp hl)⟩

/-- How the latest event deals with command buffers, between states in which both invariants hold. -/
theorem handled (h : Reaches Event.Unshared (event :: history) after) (hn : ¬Reckoning.strict) :
    ∃ before, Invariant history before ∧ Standing history before ∧ CommandBuffer.Handled before after event := by
  cases h with
  | step h ha hl =>
    obtain ⟨hi, hst⟩ := h.standing hn
    have hp := ha.toProper.permitted hi.agrees fun set _ hs => absurd hs hn
    exact ⟨_, hi, hst, CommandBuffer.handled hi.sound hi.occupies ha.fresh hp hl⟩

/-- A command buffer that outlasts an event stands for the same native one. -/
theorem nativeOf_step (h : Reaches Event.Unshared (event :: history) after) (hn : ¬Reckoning.strict)
    (hb : nativeOf history (some handle) = some native) (ha : (liveAfter (event :: history)).any (·.isAt handle)) :
    nativeOf (event :: history) (some handle) = some native := by
  obtain ⟨hi', hst'⟩ := h.standing hn
  obtain ⟨before, hi, hst, hh⟩ := h.handled hn
  rw [hst.assigned.nativeOf_eq hi.agrees hi.sound, Option.map_eq_some_iff] at hb
  obtain ⟨record, hat, rfl⟩ := hb
  obtain ⟨found, hat'⟩ := Option.isSome_iff_exists.1 ((hi'.agrees.any_isAt_iff hi'.sound).1 ha)
  rw [hst'.assigned.nativeOf_eq hi'.agrees hi'.sound, hat']
  obtain ⟨place, he, hp⟩ := CommandBuffer.at?_eq_some_iff.1 hat
  obtain rfl := Option.some.inj he
  rw [hh.same hp (CommandBuffer.at?_toHandle_iff.1 hat')]
  rfl

/-- As long as a command buffer lasts, its native one receives what it is given to do. -/
theorem received_eq (h : Reaches Event.Unshared (later ++ earlier) bridge) (hn : ¬Reckoning.strict)
    (hl : Lasts handle earlier later) (hb : nativeOf earlier (some handle) = some native) :
    nativeOf (later ++ earlier) (some handle) = some native ∧
      receivedIn native later = issuedIn handle earlier later := by
  induction later generalizing bridge with
  | nil => exact ⟨hb, rfl⟩
  | cons event later ih =>
    obtain ⟨hlive, hl⟩ := hl
    obtain ⟨between, hbetween⟩ := Reaches.exists_before (show Reaches _ ([event] ++ (later ++ earlier)) bridge from h)
    obtain ⟨hnative, heq⟩ := ih hbetween hl
    obtain ⟨before, hi, hst, hh⟩ := h.handled hn
    refine ⟨h.nativeOf_step hn hnative hlive, ?_⟩
    rw [receivedIn, issuedIn, heq, (hst.transparent hi.agrees hi.sound hh).received handle native hnative]
    rfl

end Reaches

end Standing

/-- In every use in which the native driver answers with command buffers that no live one stands for: each call is
transparent; a live command buffer stands for the native one in its record; and from when it is made for as long as it
lasts it stands for that one, which receives in this time what the command buffer is given to do, in this order. -/
theorem recording_transparent {history : List Event} {bridge : Bridge} (h : Reaches Event.Unshared history bridge) :
    (∀ later event earlier, history = later ++ event :: earlier → event.Transparent earlier) ∧
      (∀ handle, nativeOf history handle = (CommandBuffer.at? bridge handle).map (·.native)) ∧
      ∀ later earlier handle native, history = later ++ earlier → Lasts handle earlier later →
        nativeOf earlier (some handle) = some native →
          nativeOf history (some handle) = some native ∧ receivedIn native later = issuedIn handle earlier later := by
  let _ : Reckoning := ⟨False⟩
  refine ⟨?_, ?_, ?_⟩
  · rintro later event earlier rfl
    obtain ⟨after, hafter⟩ := h.exists_before
    obtain ⟨before, hi, hst, hh⟩ := hafter.handled id
    exact hst.transparent hi.agrees hi.sound hh
  · obtain ⟨hi, hst⟩ := h.standing id
    exact hst.assigned.nativeOf_eq hi.agrees hi.sound
  · rintro later earlier handle native rfl hl hb
    exact h.received_eq id hl hb

/-! ## A sample -/

/-- All native command buffers that were answered for command buffers. -/
def assignedIn (history : List Event) : List NativeHandle := history.flatMap fun event => event.wrapped.map (·.2)

theorem mem_assignedIn {history : List Event} {handle : Handle} {native : NativeHandle}
    (h : assigned handle history = some native) : native ∈ assignedIn history := by
  induction history with
  | nil => cases h
  | cons event history ih =>
    rw [assigned, Option.or_eq_some_iff] at h
    rw [assignedIn, List.flatMap_cons, List.mem_append]
    obtain h | ⟨-, h⟩ := h
    · obtain ⟨first, last, he, -⟩ := List.lookup_eq_some_iff.1 h
      rw [he]
      exact .inl (List.mem_map_of_mem (List.mem_append_right _ (List.mem_cons_self ..)))
    · exact .inr (ih h)

/-- A test for events of uses in which each native command buffer is answered once. -/
def Event.UnsharedForSure (history : List Event) (event : Event) : Prop :=
  event.ProperForSure history ∧ ∀ natives ∈ event.trace.filterMap Exchange.allocated?,
    natives.Nodup ∧ natives.all (· ∉ assignedIn history)

instance (history : List Event) (event : Event) : Decidable (event.UnsharedForSure history) :=
  inferInstanceAs (Decidable (_ ∧ _))

theorem Event.UnsharedForSure.unshared {history : List Event} {event : Event} (h : event.UnsharedForSure history) :
    event.Unshared history where
  toProper := h.1.proper
  natives device request natives hm := by
    obtain ⟨hn, hfresh⟩ := h.2 natives.toList (List.mem_filterMap.2 ⟨_, hm, rfl⟩)
    refine ⟨hn, fun native hnative handle heq => of_decide_eq_true (List.all_eq_true.1 hfresh native hnative) ?_⟩
    obtain ⟨found, rfl, hfound⟩ := Option.bind_eq_some_iff.1 heq
    split at hfound
    · exact mem_assignedIn hfound
    · cases hfound

namespace Sample

/-- The command buffers of the pool. -/
def primary : Handle := ⟨⟨225280⟩, 0⟩

def secondary : Handle := ⟨⟨229376⟩, 0⟩

/-- A buffer goes from one family of queues to another, and an image is laid out anew. -/
def barrier : Command :=
  .pipelineBarrier 4096 2048 0 (.absent 0) (.present [⟨none, 4096, 32, 0, 1, 119, 0, 256⟩])
    (.present [⟨none, 0, 32, 0, 1, 0, 0, 120, ⟨1, 0, 1, 0, 1⟩⟩])

/-- Of two command buffers, one executes the other; it is also given a list with a null in it, in vain. -/
def recording : List Call :=
  [.record (some primary) .finish,
   .execute (some primary) (.present [some secondary, none]),
   .execute (some primary) (.present [some secondary]),
   .record (some primary) barrier,
   .record (some primary) (.begin none),
   .record (some secondary) (.begin (some ⟨none, 4, some ⟨none, 0, 0, 0, 1, 0, 0⟩⟩))]

/-- The events up to the allocation of both, and those in which they are recorded. -/
def recorded : List Event := (session .obliging (recording ++ calls.drop 2)).1

end Sample

/-- The native command buffer behind the primary one receives four of the five calls on it, the barrier among them. -/
theorem recording_transparent_sample :
    Reaches Event.Unshared Sample.recorded (session .obliging (Sample.recording ++ Sample.calls.drop 2)).2 ∧
      (receivedIn 54 (Sample.recorded.take 6)).length = 4 ∧
      (receivedIn 54 (Sample.recorded.take 6)).filterMap Work.command? = [.begin none, Sample.barrier, .finish] ∧
      receivedIn 54 (Sample.recorded.take 6) = issuedIn Sample.primary (Sample.recorded.drop 6) (Sample.recorded.take 6) := by
  have h : Reaches Event.UnsharedForSure Sample.recorded (session .obliging (Sample.recording ++ Sample.calls.drop 2)).2 :=
    reaches_session _ (by decide +kernel)
  have h := h.mono fun _ _ => Event.UnsharedForSure.unshared
  obtain ⟨-, -, hlasting⟩ := recording_transparent h
  refine ⟨h, by decide +kernel, by decide +kernel, ?_⟩
  exact (hlasting _ _ Sample.primary 54 (List.take_append_drop 6 _).symm (by decide +kernel) (by decide +kernel)).2

end VulkanBridge
