import VulkanBridge.Proofs.Agrees
/-!
# Valid uses

`Event.Valid` is what the application owes the driver at an event. `Invariant` is what holds in return after every event
that is permitted (`Invariant.step`): the records fit together, the trace accounts for the memory that is owned, and the
live objects are those that have records.
-/

namespace VulkanBridge

/-- The event names live objects where it destroys pools or frees command buffers. -/
structure Event.Valid (live : List Object) (event : Event) : Prop where
  /-- An array has no more items than its count can say. -/
  queues : ∀ handle info explicit output, event.call = .createDevice handle (some info) explicit output →
    info.queues.toList.length < 2 ^ 32
  pool : ∀ handle pool explicit, event.call = .destroyPool (some handle) pool explicit → pool ≠ 0 →
    ∃ object ∈ live, object.isPool pool ∧ object.owner = handle
  /-- Each command buffer is freed once, and through the pool it came from. -/
  commandBuffers : ∀ handle pool commandBuffers, event.call = .freeCommandBuffers (some handle) pool commandBuffers →
    (commandBuffers.toList.filterMap id).Nodup ∧
      ∀ found ∈ commandBuffers.toList.filterMap id, .commandBuffer handle pool found ∈ live

/-- No objects of one handle grow more than a word can count. -/
structure Event.Few (live : List Object) (event : Event) : Prop where
  references : ∀ handle pool, (objectsOf handle (event.live live)).countP (·.refersTo pool) < 2 ^ 32
  fences : ∀ handle fence, (objectsOf handle (event.live live)).countP (·.isFence fence) < 2 ^ 32
  /-- Command buffers that the native driver has made count from then on. -/
  allocated : ∀ handle request native natives, event.call = .allocateCommandBuffers (some handle) (some request) →
    .native (.allocateCommandBuffers native request) (.ok natives) ∈ event.trace →
      (objectsOf handle live).countP (·.refersTo request.pool) + request.count.toNat < 2 ^ 32

/-- The event is valid and leaves objects few, and allocations answer with memory that nobody holds. -/
structure Event.Proper (history : List Event) (event : Event) : Prop
    extends Event.Valid (liveAfter history) event, Event.Few (liveAfter history) event where
  fresh : event.trace.Fresh (Trace.held [] (traceOf history))

/-! ## Checks -/

namespace Event

/-- A test for valid events. -/
def check (live : List Object) : Event → Bool
  | ⟨.createDevice _ (some info) _ _, _, _⟩ => info.queues.toList.length < 2 ^ 32
  | ⟨.destroyPool (some handle) pool _, _, _⟩ =>
    pool = 0 || live.any fun object => object.isPool pool && object.owner = handle
  | ⟨.freeCommandBuffers (some handle) pool commandBuffers, _, _⟩ =>
    (commandBuffers.toList.filterMap id).Nodup &&
      (commandBuffers.toList.filterMap id).all fun found => .commandBuffer handle pool found ∈ live
  | _ => true

theorem valid_of_check {live : List Object} {event : Event} (h : event.check live) : event.Valid live := by
  obtain ⟨call, trace, answer⟩ := event
  constructor
  · rintro handle info explicit output rfl
    simpa [check] using h
  · rintro handle pool explicit rfl hz
    simpa [check, hz] using h
  · rintro handle pool commandBuffers rfl
    obtain ⟨hn, hall⟩ := (Bool.and_eq_true ..).mp h
    exact ⟨of_decide_eq_true hn, fun found hm => of_decide_eq_true (List.all_eq_true.1 hall found hm)⟩

theorem countP_objectsOf_le (handle : Handle) (live : List Object) (p : Object → Prop) [DecidablePred p] :
    (objectsOf handle live).countP p ≤ live.length :=
  (Multiset.countP_le_card _ _).trans ((Multiset.card_le_card (Multiset.filter_le _ _)).trans_eq (Multiset.coe_card live))

/-- The number of command buffers that are asked for. -/
def requested : Event → Nat
  | ⟨.allocateCommandBuffers _ (some request), _, _⟩ => request.count.toNat
  | _ => 0

/-- Few objects are few of every handle. -/
theorem few_of_length {live : List Object} {event : Event} (hl : (event.live live).length < 2 ^ 32)
    (hr : live.length + event.requested < 2 ^ 32) : event.Few live := by
  refine ⟨fun _ _ => (countP_objectsOf_le ..).trans_lt hl, fun _ _ => (countP_objectsOf_le ..).trans_lt hl, ?_⟩
  obtain ⟨call, trace, answer⟩ := event
  rintro handle request native natives rfl -
  exact (Nat.add_le_add_right (countP_objectsOf_le ..) _).trans_lt hr

/-- A test for proper events. -/
def ProperForSure (history : List Event) (event : Event) : Prop :=
  event.check (liveAfter history) ∧ (event.live (liveAfter history)).length < 2 ^ 32 ∧
    (liveAfter history).length + event.requested < 2 ^ 32 ∧ event.trace.Fresh (Trace.held [] (traceOf history))

instance (history : List Event) (event : Event) : Decidable (ProperForSure history event) :=
  inferInstanceAs (Decidable (_ ∧ _))

theorem ProperForSure.proper {history : List Event} {event : Event} (h : event.ProperForSure history) :
    event.Proper history where
  toValid := valid_of_check h.1
  toFew := few_of_length h.2.1 h.2.2.1
  fresh := h.2.2.2

end Event

/-! ## What the live objects tell of the state -/

namespace Agrees

variable {bridge : Bridge} {live : List Object} {owner : Address} {device : Device} {pool : NativeHandle}

/-- The live command buffers of a device, by the places of their records. -/
theorem mem_commandBuffers (h : Agrees bridge live) (hb : bridge.blocks[owner]? = some (.device device))
    {handle : Handle} (hm : .commandBuffer owner.toHandle pool handle ∈ live) :
    ∃ place : Address, place.toHandle = handle ∧ (pool, place) ∈ device.commandBuffers := by
  have hm : (pool, handle) ∈ (objectsOf owner.toHandle live).filterMap (·.commandBuffer?) :=
    (Multiset.mem_filterMap _ _).2 ⟨_, mem_objectsOf.2 ⟨hm, rfl⟩, rfl⟩
  rw [← (h.device hb).commandBuffers] at hm
  obtain ⟨⟨found, place⟩, hentry, he⟩ := Multiset.mem_map.1 hm
  obtain ⟨rfl, rfl⟩ := Prod.mk.inj he
  exact ⟨place, rfl, mem_elements.1 hentry⟩

/-- The handle of a live pool has a reference. -/
theorem references_pos (h : Agrees bridge live) (hb : bridge.blocks[owner]? = some (.device device)) {object : Object}
    (hm : object ∈ live) (hp : object.isPool pool) (ho : object.owner = owner.toHandle) :
    0 < device.pools.references pool := by
  rw [(h.device hb).references]
  refine Multiset.countP_pos.2 ⟨object, mem_objectsOf.2 ⟨hm, ho⟩, ?_⟩
  rw [Object.refersTo, hp]
  rfl

variable [Reckoning] {fence : NativeHandle}

/-- A handle that no fence has is unknown. -/
theorem fence_unknown (h : Agrees bridge live) (hs : bridge.Sound)
    (hb : bridge.blocks[owner]? = some (.device device))
    (hn : ∀ object ∈ objectsOf owner.toHandle live, ¬object.isFence fence) : device.fences.grant? fence = none := by
  have hsd : device.Sound bridge owner := hs owner _ hb
  have hr := (h.device hb).fences fence
  rw [Multiset.countP_eq_zero.2 hn] at hr
  exact Registry.grant?_eq_none_iff.2 (hsd.fences.references_eq_zero_iff.1 (Nat.le_zero.1 hr))

/-- A handle that no pool has is unknown: command buffers alone do not keep it. -/
theorem pool_unknown (h : Agrees bridge live) (hs : bridge.Sound)
    (hb : bridge.blocks[owner]? = some (.device device))
    (hn : ∀ object ∈ objectsOf owner.toHandle live, ¬object.isPool pool) : device.pools.grant? pool = none := by
  have hsd : device.Sound bridge owner := hs owner _ hb
  have hr := (h.device hb).pools pool
  have := hsd.counted pool
  rw [Multiset.countP_eq_zero.2 hn] at hr
  refine Registry.grant?_eq_none_iff.2 (hsd.pools.references_eq_zero_iff.1 ?_)
  by_contra
  omega

end Agrees

variable {bridge after : Bridge} {live : List Object} {event : Event} {history : List Event}

/-- Where objects are few, counts are bounded. -/
theorem Event.Few.bounded (h : event.Few live) (ha : Agrees bridge live) : event.Bounded bridge where
  pools owner device info explicit trace code pool hb he := by
    subst he
    rw [(ha.device hb).references]
    refine countP_objectsOf_succ_lt (h.references owner.toHandle pool) rfl ?_
    simp [Object.refersTo, Object.isPool]
  allocated owner device request hb he := by
    rintro ⟨natives, hm⟩
    rw [(ha.device hb).references]
    exact h.allocated owner.toHandle request device.native natives he hm
  fences owner device info set trace code fence hb he := by
    subst he
    refine (Nat.add_le_add_right ((ha.device hb).fences fence) 1).trans_lt ?_
    refine countP_objectsOf_succ_lt (h.fences owner.toHandle fence) rfl ?_
    simp [Object.isFence]

variable [Reckoning]

/-- Valid events are permitted in the state that the live objects tell of. -/
theorem Event.Valid.permitted (h : event.Valid live) (ha : Agrees bridge live) (hb : event.Bounded bridge)
    (hc : ∀ set ∈ event.call.explicit?, set.Returns) : event.Permitted bridge where
  toBounded := hb
  callbacks := hc
  queues := h.queues
  known owner device pool explicit hb he hz := by
    obtain ⟨object, hm, hp, ho⟩ := h.pool owner.toHandle pool explicit he hz
    have := ha.references_pos hb hm hp ho
    intro hnone
    rw [Registry.references_of_none (Registry.grant?_eq_none_iff.1 hnone)] at this
    exact absurd this (Nat.lt_irrefl 0)
  freed owner device pool commandBuffers hb he := by
    obtain ⟨hn, hm⟩ := h.commandBuffers owner.toHandle pool commandBuffers he
    have hplace (handle : Handle) (hhandle : handle ∈ commandBuffers.toList.filterMap id) :
        handle.block.toHandle = handle ∧ (pool, handle.block) ∈ device.commandBuffers := by
      obtain ⟨place, rfl, hplace⟩ := ha.mem_commandBuffers hb (hm handle hhandle)
      exact ⟨rfl, hplace⟩
    have hall : ((commandBuffers.toList.filterMap id).map (·.block)).map Address.toHandle =
        commandBuffers.toList.filterMap id := by
      rw [List.map_map]
      exact (List.map_congr_left fun handle hhandle => (hplace handle hhandle).1).trans (List.map_id _)
    refine ⟨(commandBuffers.toList.filterMap id).map (·.block), ?_, fun address haddress => ?_, hall.symm⟩
    · exact List.Nodup.of_map Address.toHandle (hall.symm ▸ hn)
    · obtain ⟨handle, hhandle, rfl⟩ := List.mem_map.1 haddress
      exact (hplace handle hhandle).2

theorem Event.Proper.permitted (h : event.Proper history) (ha : Agrees bridge (liveAfter history))
    (hc : ∀ set ∈ event.call.explicit?, set.Returns) : event.Permitted bridge :=
  h.toValid.permitted ha (h.toFew.bounded ha) hc

/-! ## What holds after every event -/

/-- The records fit together, what is owned has been obtained and not been given back, no handle was missing from a
registry, and the live objects are those that have records. -/
structure Invariant (history : List Event) (bridge : Bridge) : Prop where
  sound : bridge.Sound
  accounts : (traceOf history).Accounts 0 bridge.owned
  occupies : bridge.owned.Occupies (Trace.held [] (traceOf history))
  quiet : (traceOf history).Quiet
  agrees : Agrees bridge (liveAfter history)

namespace Invariant

theorem initial : Invariant [] .initial where
  sound address block h := by
    have : Bridge.initial.blocks[address]? = none := Std.ExtTreeMap.getElem?_empty
    rw [this] at h
    cases h
  accounts := Trace.Settles.accounts rfl
  occupies := ⟨Multiset.nodup_zero, fun _ h => absurd h (Multiset.notMem_zero _)⟩
  quiet _ h := absurd h List.not_mem_nil
  agrees := .initial

/-- The outcome of a permitted event. -/
theorem outcome (h : Invariant history bridge) (hp : event.Permitted bridge)
    (hf : event.trace.Fresh (Trace.held [] (traceOf history))) (hl : event.Leads bridge after) :
    ∃ owner natives, Outcome bridge owner event after ∧ bridge.Keeps owner event.trace natives after := by
  obtain ⟨owner, ho⟩ := event.outcome h.sound h.occupies hf hp hl
  obtain ⟨natives, hk⟩ := ho.keeps h.sound h.occupies hf
  exact ⟨owner, natives, ho, hk⟩

/-- Every outcome keeps the invariant. -/
theorem step {owner : Address} {natives : Trace} (h : Invariant history bridge) (ho : Outcome bridge owner event after)
    (hf : event.trace.Fresh (Trace.held [] (traceOf history))) (hk : bridge.Keeps owner event.trace natives after) :
    Invariant (event :: history) after where
  sound := hk.sound
  accounts := h.accounts.append hk.effect.accounts
  occupies := by
    rw [traceOf_cons, Trace.held_append]
    exact hk.effect.accounts.occupies h.occupies hf
  quiet exchange hm := (List.mem_append.1 hm).elim (h.quiet exchange) (hk.effect.quiet exchange)
  agrees := h.agrees.step ho hk

end Invariant

/-- The invariant holds after all uses of proper events. -/
theorem Reaches.invariant {Admits : List Event → Event → Prop} (h : Reaches Admits history bridge)
    (hp : ∀ history event, Admits history event → event.Proper history)
    (hc : ∀ history event, Admits history event → ∀ set ∈ event.call.explicit?, set.Returns) :
    Invariant history bridge := by
  induction h with
  | initial => exact .initial
  | step _ ha hl ih =>
    have hproper := hp _ _ ha
    obtain ⟨owner, natives, ho, hk⟩ := ih.outcome (hproper.permitted ih.agrees (hc _ _ ha)) hproper.fresh hl
    exact ih.step ho hproper.fresh hk

end VulkanBridge
