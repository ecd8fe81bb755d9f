import VulkanBridge.Proofs.Execution
/-!
# How events deal with command buffers

`CommandBuffer.Handled` says what an event asks the native driver about command buffers, and what becomes of their records,
in the terms of the state before it. Most events are `aside`; the others allocate, free, record or execute, or are
refused. What holds of command buffers over all uses is a case analysis over it.
-/

namespace VulkanBridge

variable {bridge after : Bridge} {trace : Trace} {handle : Option Handle}

section Listed

variable [Reckoning]

/-- Each record of a command buffer is listed by its device. -/
theorem Bridge.Sound.listed (hs : bridge.Sound) {place : Address} {record : CommandBuffer}
    (h : bridge.blocks[place]? = some (.commandBuffer record)) :
    record.header.tag = ObjectKind.commandBuffer.tag ∧ ∃ device,
      bridge.blocks[record.device]? = some (.device device) ∧ (record.pool, place) ∈ device.commandBuffers := by
  obtain hown | hbelongs := hs.owner_or_belongs h
  · exact hown.elim
  · cases hbelongs with
    | commandBuffer hb hentry htag => exact ⟨htag, _, hb, hentry⟩

end Listed

namespace CommandBuffer

theorem at?_toHandle_iff {place : Address} {record : CommandBuffer} :
    at? bridge (some place.toHandle) = some record ↔ bridge.blocks[place]? = some (.commandBuffer record) := by
  rw [at?, Option.bind_some, Bridge.record?_commandBuffer_iff]
  exact ⟨fun h => h.2, fun h => ⟨rfl, h⟩⟩

theorem at?_eq_some_iff {record : CommandBuffer} : at? bridge handle = some record ↔
    ∃ place : Address, handle = some place.toHandle ∧ bridge.blocks[place]? = some (.commandBuffer record) := by
  cases handle with
  | none => simp [at?]
  | some handle =>
    obtain ⟨place, slot⟩ := handle
    rw [at?, Option.bind_some, Bridge.record?_commandBuffer_iff]
    constructor
    · rintro ⟨rfl, hb⟩
      exact ⟨place, rfl, hb⟩
    · rintro ⟨place, he, hb⟩
      cases he
      exact ⟨rfl, hb⟩

variable [Reckoning]

/-- A command reaches the native command buffer as it is, and is answered with what the native driver answers. -/
theorem runs_record {command : Command} {answer : command.Answer} (hs : bridge.Sound)
    (h : (record handle command).Runs bridge trace answer after) :
    after = bridge ∧
      ((∃ found, at? bridge handle = some found ∧
          trace.commandBuffers = [.native (.command found.native command) answer]) ∨
        (at? bridge handle = none ∧ trace.commandBuffers = [])) := by
  unfold record at h
  cases hat : at? bridge handle with
  | none =>
    obtain ⟨last, rfl, hlast⟩ := ((refuses_iff hs.tagged).2 hat).tells_resolve.runs_bind h
    obtain ⟨rfl, -, rfl⟩ := Action.runs_pure_iff.1 hlast
    exact ⟨rfl, .inr ⟨rfl, rfl⟩⟩
  | some found =>
    obtain ⟨accepted, ht⟩ := tells_resolve hs.tagged hat
    obtain ⟨last, rfl, hsend⟩ := ht.runs_bind h
    obtain ⟨hsent, rfl⟩ := Action.runs_lift_iff.1 hsend
    obtain rfl := Program.runs_native_iff.1 hsent
    exact ⟨rfl, .inl ⟨found, rfl, rfl⟩⟩

/-- Secondary command buffers reach the native driver in batches, unless one of them is invalid. -/
theorem runs_execute {secondaries : Span (Option Handle)} {result : Unit} (hs : bridge.Sound)
    (h : (execute handle secondaries).Runs bridge trace result after) :
    after = bridge ∧
      ((∃ found natives, at? bridge handle = some found ∧ nativesAt? bridge secondaries.toList = some natives ∧
          trace.commandBuffers = (batches Platform.batchSize natives).map fun batch =>
            .native (.execute found.native batch) ()) ∨
        ((at? bridge handle = none ∨ nativesAt? bridge secondaries.toList = none) ∧ trace.commandBuffers = [])) := by
  cases hat : at? bridge handle with
  | none =>
    obtain ⟨last, rfl, hlast⟩ := ((refuses_iff hs.tagged).2 hat).tells_resolve.runs_bind h
    obtain ⟨rfl, -, rfl⟩ := Action.runs_pure_iff.1 hlast
    exact ⟨rfl, .inr ⟨.inl rfl, rfl⟩⟩
  | some found =>
    obtain ⟨rfl, ⟨natives, hnatives, rfl⟩ | ⟨index, hi, hplace, rfl⟩⟩ := runs_execute_live hs.tagged hat h
    · refine ⟨rfl, .inl ⟨found, natives, rfl, hnatives, ?_⟩⟩
      refine List.filter_eq_self.2 fun exchange hm => ?_
      obtain ⟨batch, -, rfl⟩ := List.mem_map.1 hm
      rfl
    · refine ⟨rfl, .inr ⟨.inr ?_, rfl⟩⟩
      rw [Option.eq_none_iff_forall_ne_some]
      intro natives hnatives
      have hlive := (nativesAt?_eq_some_iff.1 hnatives).1 _ (List.getElem_mem hi)
      have hinvalid := (List.findIdx?_eq_some_iff_getElem.1 hplace).2.1
      rw [Option.isNone_iff_eq_none] at hinvalid
      rw [hinvalid] at hlive
      cases hlive

/-- What an event has to do with command buffers. -/
inductive Handled (bridge after : Bridge) : Event → Prop
  | aside {event : Event} :
      event.call.ofCommandBuffers = false → event.trace.commandBuffers = [] → bridge.Retains after → Handled bridge after event
  | unanswered {handle : Option Handle} {request : Option CommandBufferRequest} {trace : Trace} {code : ResultCode} :
      after = bridge → trace.Idle → Unanswered trace →
        Handled bridge after ⟨.allocateCommandBuffers handle request, trace, (code, none)⟩
  | allocated {owner : Address} {request : CommandBufferRequest} {trace : Trace} {code : ResultCode}
      {stored : Option (List (Option Handle))} {device changed : Device} {new : List Address} :
      Regrouped bridge (some owner.toHandle) owner device trace after changed →
        (stored.getD []).filterMap id = new.map Address.toHandle →
          elements changed.commandBuffers = (new.map (request.pool, ·) : Multiset _) + elements device.commandBuffers →
            Answered after owner device request trace.commandBuffers new →
              (∀ place : Address, place ≠ owner → ∀ block, bridge.blocks[place]? = some block →
                after.blocks[place]? = some block) →
                Handled bridge after ⟨.allocateCommandBuffers (some owner.toHandle) (some request), trace, (code, stored)⟩
  | spared {handle : Option Handle} {pool : NativeHandle} {commandBuffers : Span (Option Handle)} {trace : Trace} :
      after = bridge → trace.Idle → trace.commandBuffers = [] → (commandBuffers.toList = [] ∨ bridge.Lacks .device handle) →
        Handled bridge after ⟨.freeCommandBuffers handle pool commandBuffers, trace, ()⟩
  | freed {owner : Address} {pool : NativeHandle} {commandBuffers : Span (Option Handle)} {trace : Trace}
      {device changed : Device} {addresses : List Address} :
      Regrouped bridge (some owner.toHandle) owner device trace after changed →
        commandBuffers.toList.filterMap id = addresses.map Address.toHandle →
          elements device.commandBuffers = (addresses.map (pool, ·) : Multiset _) + elements changed.commandBuffers →
            trace.commandBuffers = (batches Platform.batchSize commandBuffers.toList).map (fun batch =>
              .native (.freeCommandBuffers device.native pool (batch.map (nativeOrNull bridge))) ()) →
              bridge.Retains after →
                Handled bridge after ⟨.freeCommandBuffers (some owner.toHandle) pool commandBuffers, trace, ()⟩
  | recorded {handle : Option Handle} {command : Command} {trace : Trace} {answer : command.Answer} {found : CommandBuffer} :
      after = bridge → trace.Idle → at? bridge handle = some found →
        trace.commandBuffers = [.native (.command found.native command) answer] →
          Handled bridge after ⟨.record handle command, trace, answer⟩
  | unrecorded {handle : Option Handle} {command : Command} {trace : Trace} {answer : command.Answer} :
      after = bridge → trace.Idle → at? bridge handle = none → trace.commandBuffers = [] →
        Handled bridge after ⟨.record handle command, trace, answer⟩
  | executed {handle : Option Handle} {secondaries : Span (Option Handle)} {trace : Trace} {found : CommandBuffer}
      {natives : List NativeHandle} :
      after = bridge → trace.Idle → at? bridge handle = some found → nativesAt? bridge secondaries.toList = some natives →
        trace.commandBuffers = ((batches Platform.batchSize natives).map fun batch =>
          .native (.execute found.native batch) ()) →
          Handled bridge after ⟨.execute handle secondaries, trace, ()⟩
  | unexecuted {handle : Option Handle} {secondaries : Span (Option Handle)} {trace : Trace} :
      after = bridge → trace.Idle → (at? bridge handle = none ∨ nativesAt? bridge secondaries.toList = none) → trace.commandBuffers = [] →
        Handled bridge after ⟨.execute handle secondaries, trace, ()⟩

/-- How each event that is a proper use deals with command buffers. -/
theorem handled {event : Event} {places : List Address} (hs : bridge.Sound) (ho : bridge.owned.Occupies places)
    (hf : event.trace.Fresh places) (hp : event.Permitted bridge) (h : event.Leads bridge after) :
    Handled bridge after event := by
  cases hc : event.call.ofCommandBuffers with
  | false =>
    obtain ⟨ht, hr⟩ := event.call.aside_run hc _ _ _ _ h
    exact .aside hc ht hr
  | true =>
    obtain ⟨call, trace, answer⟩ := event
    cases call with
    | allocateCommandBuffers handle request =>
      obtain ⟨code, stored⟩ := answer
      obtain ⟨rfl, hi, rfl, ht⟩ | ⟨owner, device, changed, wanted, new, hr, rfl, hnew, hall, hanswered, hkept⟩ :=
        runs_allocate hs ho hf (hp.toBounded.room rfl) h
      · exact .unanswered rfl hi ht
      · obtain rfl := hr.handle
        exact .allocated hr hnew hall hanswered hkept
    | freeCommandBuffers handle pool commandBuffers =>
      obtain ⟨rfl, hi, hn, ht⟩ | ⟨owner, device, changed, addresses, hr, haddresses, hall, ht, between, hlost, rfl⟩ :=
        runs_freeList hs ho hf (hp.entries rfl) h
      · exact .spared rfl hi ht hn
      · obtain rfl := hr.handle
        exact .freed hr haddresses hall ht (hlost.retains.trans (.put nofun))
    | record handle command =>
      obtain ⟨-, hi⟩ := idle_record _ _ _ _ _ _ h
      obtain ⟨rfl, ⟨found, hat, ht⟩ | ⟨hat, ht⟩⟩ := runs_record hs h
      · exact .recorded rfl hi hat ht
      · exact .unrecorded rfl hi hat ht
    | execute handle secondaries =>
      obtain ⟨-, hi⟩ := idle_execute _ _ _ _ _ _ h
      obtain ⟨rfl, ⟨found, natives, hat, hnatives, ht⟩ | ⟨hno, ht⟩⟩ := runs_execute hs h
      · exact .executed rfl hi hat hnatives ht
      · exact .unexecuted rfl hi hno ht
    | _ => cases hc

end CommandBuffer

/-! ## Live command buffers have records -/

/-- The object is a command buffer with this handle. -/
def Object.isAt (handle : Handle) : Object → Bool
  | commandBuffer _ _ found => found = handle
  | _ => false

/-- The command buffer is live before the later events, and after each of them. -/
def Lasts (handle : Handle) (earlier : List Event) : (later : List Event) → Prop
  | [] => (liveAfter earlier).any (·.isAt handle)
  | event :: later => (liveAfter (event :: later ++ earlier)).any (·.isAt handle) ∧ Lasts handle earlier later

instance decidableLasts (handle : Handle) (earlier later : List Event) : Decidable (Lasts handle earlier later) :=
  match later with
  | [] => inferInstanceAs (Decidable (_ = true))
  | _ :: later =>
    have := decidableLasts handle earlier later
    inferInstanceAs (Decidable (_ ∧ _))

section New

variable {live : List Object} {event : Event} {place : Address} {record : CommandBuffer}

/-- A handle is that of a live command buffer if and only if it names one. -/
theorem Agrees.any_isAt_iff [Reckoning] (h : Agrees bridge live) (hs : bridge.Sound) {handle : Handle} :
    live.any (·.isAt handle) ↔ (CommandBuffer.at? bridge (some handle)).isSome := by
  rw [List.any_eq_true, Option.isSome_iff_exists]
  constructor
  · rintro ⟨object, hm, hat⟩
    cases object with
    | commandBuffer owner pool found =>
      obtain rfl : found = handle := by simpa [Object.isAt] using hat
      obtain ⟨address, rfl⟩ := h.owners _ hm
      obtain ⟨device, hr⟩ := h.rooted _ hm
      obtain ⟨-, hb⟩ := Bridge.record?_device_iff.1 hr
      obtain ⟨place, rfl, hentry⟩ := h.mem_commandBuffers hb hm
      obtain ⟨record, hr, -⟩ := Device.Sound.commandBuffers (hs address _ hb) pool place hentry
      exact ⟨record, CommandBuffer.at?_toHandle_iff.2 hr⟩
    | _ => cases hat
  · rintro ⟨record, hat⟩
    obtain ⟨place, he, hb⟩ := CommandBuffer.at?_eq_some_iff.1 hat
    obtain rfl := Option.some.inj he
    obtain ⟨-, device, hd, hm⟩ := hs.listed hb
    have hm := Multiset.mem_map_of_mem (fun entry => (entry.1, entry.2.toHandle)) (mem_elements.2 hm)
    rw [(h.device hd).commandBuffers] at hm
    obtain ⟨object, hobject, he⟩ := (Multiset.mem_filterMap _ _).1 hm
    refine ⟨object, (mem_objectsOf.1 hobject).1, ?_⟩
    cases object <;> simp_all [Object.commandBuffer?, Object.isAt]

/-- No two command buffers have the same native one. -/
def Bridge.Apart (bridge : Bridge) : Prop :=
  ∀ (place other : Address) (record found : CommandBuffer), bridge.blocks[place]? = some (.commandBuffer record) →
    bridge.blocks[other]? = some (.commandBuffer found) → record.native = found.native → place = other

theorem Bridge.apart_initial : initial.Apart := by
  intro place other record found h
  have : initial.blocks[place]? = none := Std.ExtTreeMap.getElem?_empty
  rw [this] at h
  cases h

/-! ## Which records are new -/

/-- The native command buffers that the native driver answered with. -/
def Exchange.allocated? : Exchange → Option (List NativeHandle)
  | ⟨.native (.allocateCommandBuffers _ _), .ok natives⟩ => some natives.toList
  | _ => none

/-- The command buffers that an event made, each with the native one that it stands for. -/
def Event.wrapped : Event → List (Handle × NativeHandle)
  | ⟨.allocateCommandBuffers _ _, trace, (_, some stored)⟩ =>
    (stored.filterMap id).zip ((trace.findSome? Exchange.allocated?).getD [])
  | _ => []

theorem Event.wrapped_of_not (h : ∀ handle request, event.call ≠ .allocateCommandBuffers handle request) :
    event.wrapped = [] := by
  unfold wrapped
  split
  · exact absurd rfl (h _ _)
  · rfl

/-- What a trace says of new command buffers, it says where it deals with command buffers. -/
theorem Trace.findSome?_allocated? (trace : Trace) :
    trace.findSome? Exchange.allocated? = trace.commandBuffers.findSome? Exchange.allocated? := by
  refine findSome?_filter (fun exchange h => ?_) trace
  unfold Exchange.allocated?
  split
  · cases h
  · rfl

/-- What is in one of two lists that are related item by item is related to something in the other. -/
theorem exists_of_forall₂ {α β : Type} {r : α → β → Prop} {items : List α} {values : List β} {item : α}
    (h : List.Forall₂ r items values) (hm : item ∈ items) : ∃ value ∈ values, r item value := by
  induction h with
  | nil => cases hm
  | @cons first value rest values hfirst _ ih =>
    obtain rfl | hm := List.mem_cons.1 hm
    · exact ⟨value, List.mem_cons_self .., hfirst⟩
    · obtain ⟨found, hf, hr⟩ := ih hm
      exact ⟨found, List.mem_cons_of_mem _ hf, hr⟩

namespace CommandBuffer

variable {owner : Address} {pool : NativeHandle} {device : Device} {request : CommandBufferRequest} {trace : Trace}

/-- The handles of records that were made one after another, each with its native command buffer. -/
theorem Wraps.lookup {addresses : List Address} {natives : List NativeHandle} (hw : Wraps bridge owner pool addresses natives)
    (hb : bridge.blocks[place]? = some (.commandBuffer record)) :
    ((addresses.map Address.toHandle).zip natives).lookup place.toHandle =
      if place ∈ addresses then some record.native else none := by
  induction hw with
  | nil => rfl
  | @cons address native addresses natives hhead _ ih =>
    rw [List.map_cons, List.zip_cons_cons, List.lookup_cons, ih]
    by_cases he : place = address
    · subst he
      rw [hb] at hhead
      cases hhead
      simp [new]
    · rw [beq_eq_false_iff_ne.2 (mt toHandle_inj.1 he)]
      simp [he]

/-- The event made the records that were asked for, or none. -/
theorem Answered.wrapped_eq {new : List Address} {stored : Option (List (Option Handle))}
    (handle : Option Handle) (code : ResultCode) (ha : Answered after owner device request trace.commandBuffers new)
    (hstored : (stored.getD []).filterMap id = new.map Address.toHandle) :
    ∃ natives : Vector NativeHandle request.count.toNat,
      .native (.allocateCommandBuffers device.native request) (.ok natives) ∈ trace ∧
        Event.wrapped ⟨.allocateCommandBuffers handle (some request), trace, (code, stored)⟩ =
          (new.map Address.toHandle).zip natives.toList ∧
        (Wraps after owner request.pool new natives.toList ∨ new = []) := by
  have hwrapped (natives : List NativeHandle) (hn : trace.findSome? Exchange.allocated? = some natives) :
      Event.wrapped ⟨.allocateCommandBuffers handle (some request), trace, (code, stored)⟩ =
        (new.map Address.toHandle).zip natives := by
    rw [← hstored]
    cases stored with
    | none => rfl
    | some stored => simp [Event.wrapped, hn]
  rw [trace.findSome?_allocated?] at hwrapped
  have hmem (exchange : Exchange) (hm : exchange ∈ trace.commandBuffers) : exchange ∈ trace := (List.mem_filter.1 hm).1
  generalize hasks : trace.commandBuffers = asks at ha hwrapped hmem
  cases ha with
  | wrapped hw => exact ⟨_, hmem _ (List.mem_cons_self ..), hwrapped _ rfl, .inl hw⟩
  | returned => exact ⟨_, hmem _ (List.mem_cons_self ..), hwrapped _ rfl, .inr rfl⟩

variable [Reckoning]

/-- A record that is there after an event was there before, or the event made it. -/
theorem Handled.origin (hh : Handled bridge after event) (hs : bridge.Sound) (hs' : after.Sound)
    (hb : after.blocks[place]? = some (.commandBuffer record)) :
    (bridge.blocks[place]? = some (.commandBuffer record) ∧ event.wrapped.lookup place.toHandle = none) ∨
      event.wrapped.lookup place.toHandle = some record.native := by
  have old (he : event.wrapped = []) (hr : bridge.Retains after) :
      (bridge.blocks[place]? = some (.commandBuffer record) ∧ event.wrapped.lookup place.toHandle = none) ∨
        event.wrapped.lookup place.toHandle = some record.native := by
    refine .inl ⟨hr place record hb, ?_⟩
    rw [he]
    rfl
  cases hh with
  | aside hc _ hr =>
    refine old (Event.wrapped_of_not fun handle request he => ?_) hr
    rw [he] at hc
    cases hc
  | unanswered h => exact old rfl (h ▸ .refl bridge)
  | @allocated owner request trace code stored device changed new hr hstored hall hanswered hkept =>
    obtain ⟨natives, -, hwrapped, hw⟩ :=
      hanswered.wrapped_eq (some owner.toHandle) code hstored
    rw [hwrapped]
    by_cases hm : place ∈ new
    · have hw := hw.resolve_right (List.ne_nil_of_mem hm)
      rw [hw.lookup hb, if_pos hm]
      exact .inr rfl
    · refine .inl ⟨?_, ?_⟩
      · -- The device that lists the record listed it before.
        have hold : ∃ found, bridge.blocks[place]? = some (.commandBuffer found) := by
          obtain ⟨-, parent, hp, hentry⟩ := hs'.listed hb
          by_cases he : record.device = owner
          · rw [he, hr.left] at hp
            cases hp
            rw [← mem_elements, hall, Multiset.mem_add, mem_elements] at hentry
            obtain hentry | hentry := hentry
            · obtain ⟨address, hm', he⟩ := List.mem_map.1 (Multiset.mem_coe.1 hentry)
              exact absurd ((Prod.mk.inj he).2 ▸ hm') hm
            · obtain ⟨found, hf, -⟩ := Device.Sound.commandBuffers (hs owner _ hr.found) _ _ hentry
              exact ⟨found, hf⟩
          · have hp := (hr.keeps.others _ (.device parent) he trivial).1 hp
            obtain ⟨found, hf, -⟩ := Device.Sound.commandBuffers (hs _ _ hp) _ _ hentry
            exact ⟨found, hf⟩
        obtain ⟨found, hf⟩ := hold
        have hne : place ≠ owner := by
          rintro rfl
          rw [hr.left] at hb
          cases hb
        rw [hkept place hne _ hf] at hb
        rwa [hf]
      · obtain hw | rfl := hw
        · rw [hw.lookup hb, if_neg hm]
        · rfl
  | spared h => exact old (Event.wrapped_of_not nofun) (h ▸ .refl bridge)
  | freed _ _ _ _ h => exact old (Event.wrapped_of_not nofun) h
  | recorded h | unrecorded h | executed h | unexecuted h => exact old (Event.wrapped_of_not nofun) (h ▸ .refl bridge)

/-- A record that is there before an event and after it is the same. -/
theorem Handled.same {found : CommandBuffer} (hh : Handled bridge after event)
    (hb : bridge.blocks[place]? = some (.commandBuffer record)) (ha : after.blocks[place]? = some (.commandBuffer found)) :
    found = record := by
  have of_retains (hr : bridge.Retains after) : found = record := by
    have := hr place found ha
    rw [hb] at this
    cases this
    rfl
  cases hh with
  | aside _ _ hr => exact of_retains hr
  | @allocated owner _ _ _ _ _ _ _ hr _ _ _ hkept =>
    have hne : place ≠ owner := by
      rintro rfl
      rw [hr.left] at ha
      cases ha
    rw [hkept place hne _ hb] at ha
    cases ha
    rfl
  | freed _ _ _ _ hr => exact of_retains hr
  | unanswered h | spared h | recorded h | unrecorded h | executed h | unexecuted h => exact of_retains (h ▸ .refl bridge)

/-- What an event made was answered by the native driver, in this order. -/
theorem Handled.wrapped_natives (hh : Handled bridge after event) : event.wrapped = [] ∨
    ∃ device request, ∃ natives : Vector NativeHandle request.count.toNat,
      .native (.allocateCommandBuffers device request) (.ok natives) ∈ event.trace ∧
        event.wrapped.map (·.2) = natives.toList := by
  cases hh with
  | aside hc =>
    refine .inl (Event.wrapped_of_not fun handle request he => ?_)
    rw [he] at hc
    cases hc
  | @allocated owner request trace code stored device changed new _ hstored _ hanswered =>
    obtain ⟨natives, hm, hwrapped, hw | rfl⟩ :=
      hanswered.wrapped_eq (some owner.toHandle) code hstored
    · refine .inr ⟨_, request, natives, hm, ?_⟩
      rw [hwrapped, List.map_snd_zip]
      rw [List.length_map, List.Forall₂.length_eq hw]
    · exact .inl hwrapped
  | unanswered | spared | freed | recorded | unrecorded | executed | unexecuted => exact .inl rfl

/-- The native command buffer of a record that an event made was answered by the native driver. -/
theorem Handled.answered (hh : Handled bridge after event) {handle : Handle} {native : NativeHandle}
    (hl : event.wrapped.lookup handle = some native) : (handle, native) ∈ event.wrapped ∧
      ∃ device request, ∃ natives : Vector NativeHandle request.count.toNat,
        .native (.allocateCommandBuffers device request) (.ok natives) ∈ event.trace ∧
          event.wrapped.map (·.2) = natives.toList ∧ native ∈ natives.toList := by
  obtain ⟨first, last, heq, -⟩ := List.lookup_eq_some_iff.1 hl
  have hm : (handle, native) ∈ event.wrapped := heq ▸ List.mem_append_right _ (List.mem_cons_self ..)
  refine ⟨hm, ?_⟩
  obtain hnil | ⟨device, request, natives, ht, hnatives⟩ := hh.wrapped_natives
  · rw [hnil] at hm
    cases hm
  · exact ⟨device, request, natives, ht, hnatives, hnatives ▸ List.mem_map_of_mem (f := (·.2)) hm⟩

/-- Command buffers stay apart if the native ones that are answered differ from each other and from all that are there. -/
theorem Handled.apart (hh : Handled bridge after event) (hs : bridge.Sound) (hs' : after.Sound) (h : bridge.Apart)
    (hn : ∀ device request (natives : Vector NativeHandle request.count.toNat),
      .native (.allocateCommandBuffers device request) (.ok natives) ∈ event.trace → natives.toList.Nodup ∧
        ∀ native ∈ natives.toList, ∀ (place : Address) (record : CommandBuffer),
          bridge.blocks[place]? = some (.commandBuffer record) → record.native ≠ native) : after.Apart := by
  have clash {place other : Address} {record found : CommandBuffer}
      (hold : bridge.blocks[place]? = some (.commandBuffer record))
      (hnew : event.wrapped.lookup other.toHandle = some found.native) : record.native ≠ found.native := by
    obtain ⟨-, device, request, natives, hm, -, hin⟩ := hh.answered hnew
    exact (hn device request natives hm).2 _ hin place record hold
  intro place other record found hb hb' he
  obtain ⟨hold, -⟩ | hnew := hh.origin hs hs' hb
  · obtain ⟨hold', -⟩ | hnew' := hh.origin hs hs' hb'
    · exact h place other record found hold hold' he
    · exact absurd he (clash hold hnew')
  · obtain ⟨hold', -⟩ | hnew' := hh.origin hs hs' hb'
    · exact absurd he.symm (clash hold' hnew)
    · obtain ⟨hin, device, request, natives, hm, hnatives, -⟩ := hh.answered hnew
      have hnodup := (hn device request natives hm).1
      rw [← hnatives] at hnodup
      exact toHandle_inj.1 (Prod.mk.inj (List.inj_on_of_nodup_map hnodup hin (hh.answered hnew').1 he)).1

end CommandBuffer

end New

end VulkanBridge
