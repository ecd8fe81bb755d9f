import VulkanBridge.Proofs.Environment
import VulkanBridge.Proofs.Recorded
/-!
# Entries and references of a device

As long as the native driver repeats no handle that is in use, the registries of a device have an entry exactly for the
live pools and for the live fences with callbacks of their own, and count what refers to it (`devices_registered`). So no handle
is ever missing from a registry.
-/

namespace VulkanBridge

/-- What a device keeps of its pools, command buffers and fences is what it has of them. -/
structure Device.Registered (bridge : Bridge) (live : List Object) (owner : Address) (record : Device) : Prop where
  pools : ∀ pool, record.pools.contains pool ↔ ∃ explicit, .pool owner.toHandle pool explicit ∈ live
  /-- One reference for the pool, and one for each of its command buffers. -/
  references : ∀ pool count, record.pools.references? pool = some count → count.toNat = 1 + record.held pool
  commandBuffers : ∀ pool place, (pool, place) ∈ record.commandBuffers →
    .commandBuffer owner.toHandle pool place.toHandle ∈ live ∧ ∃ found : CommandBuffer,
      bridge.blocks[place]? = some (.commandBuffer found) ∧ found.header.tag = ObjectKind.commandBuffer.tag ∧
        found.pool = pool ∧ found.device = owner
  fences : ∀ fence, record.fences.contains fence ↔ ∃ set, .fence owner.toHandle fence (some set) ∈ live
  fenceReferences : ∀ fence count, record.fences.references? fence = some count → count = 1

/-- The event is valid, the native driver repeats no handle that is in use, allocations answer with memory that nobody
holds, and a pool has few enough command buffers to count them and the pool. -/
structure Event.Distinct (history : List Event) (event : Event) : Prop
    extends Event.Valid (liveAfter history) event, Event.Unrepeated (liveAfter history) event where
  fresh : event.trace.Fresh (Trace.held [] (traceOf history))
  few : ∀ handle request native natives, event.call = .allocateCommandBuffers (some handle) (some request) →
    .native (.allocateCommandBuffers native request) (.ok natives) ∈ event.trace →
      (objectsOf handle (liveAfter history)).countP (·.isCommandBuffer request.pool) + request.count.toNat < 2 ^ 32 - 1

variable {history : List Event} {event : Event} {bridge after : Bridge} {live : List Object} {owner : Address}
  {record : Device}

section Strict

variable [Reckoning]

/-- Counts stay bounded where handles are not repeated. -/
theorem Event.Distinct.bounded (h : event.Distinct history) (ha : Agrees bridge (liveAfter history)) (hs : bridge.Sound)
    (hr : Recorded bridge (liveAfter history)) : event.Bounded bridge where
  pools owner device info explicit trace code pool hb he := by
    have hnone := ha.pool_unknown hs hb (h.not_isPool he)
    rw [Registry.references_of_none (Registry.grant?_eq_none_iff.1 hnone)]
    omega
  allocated owner device request hb he := by
    rintro ⟨natives, hm⟩
    have h₁ := h.few owner.toHandle request device.native natives he hm
    have h₂ := (ha.device hb).pools request.pool
    have h₃ := (ha.device hb).held request.pool
    have h₄ := (hr owner device hb).onePool request.pool
    omega
  fences owner device info set trace code fence hb he := by
    have hnone := ha.fence_unknown hs hb (h.not_isFence he)
    rw [Registry.references_of_none (Registry.grant?_eq_none_iff.1 hnone)]
    omega

/-- Registries that know what live objects were created with have what is wanted of them. -/
theorem Recorded.registered (h : Recorded bridge live) (ha : Agrees bridge live) (hs : bridge.Sound)
    (hb : bridge.blocks[owner]? = some (.device record)) : record.Registered bridge live owner := by
  have hsd : record.Sound bridge owner := hs owner _ hb
  have hm : record.Matches owner (objectsOf owner.toHandle live) := ha.device hb
  have hr : record.Recorded owner (objectsOf owner.toHandle live) := h owner record hb
  refine ⟨fun pool => ⟨fun hc => ?_, fun ⟨explicit, hlive⟩ => ?_⟩, fun pool count hc => ?_, fun pool place hmem => ⟨?_, ?_⟩,
    fun fence => ⟨fun hc => ?_, fun ⟨set, hlive⟩ => ?_⟩, fun fence count hc => ?_⟩
  · obtain ⟨entry, he⟩ := Registry.contains_iff.1 hc
    have hpool : ∃ object ∈ objectsOf owner.toHandle live, object.isPool pool := by
      by_contra hn
      have hunknown : record.pools.grant? pool = none := ha.pool_unknown hs hb fun object hm hp => hn ⟨object, hm, hp⟩
      rw [Registry.grant?_eq_none_iff, he] at hunknown
      cases hunknown
    obtain ⟨object, hobject, hp⟩ := hpool
    obtain ⟨hobject, howner⟩ := mem_objectsOf.1 hobject
    obtain ⟨explicit, heq⟩ := Object.eq_pool hp
    rw [howner] at heq
    exact ⟨explicit, heq ▸ hobject⟩
  · have := hr.pools pool explicit (mem_objectsOf.2 ⟨hlive, rfl⟩)
    obtain ⟨entry, he, -⟩ := Registry.get?_eq_some_iff.1 this
    exact Registry.contains_iff.2 ⟨entry, he⟩
  · obtain ⟨entry, he, rfl⟩ := Registry.references?_eq_some_iff.1 hc
    have h₁ := hm.pools pool
    have h₂ := hr.onePool pool
    have h₃ := hsd.counted pool
    have h₄ : record.pools.references pool ≠ 0 := by
      rw [Ne, hsd.pools.references_eq_zero_iff, he]
      exact nofun
    rw [Registry.references_of_some he] at h₁ h₃ h₄
    omega
  · have hmem : (pool, place.toHandle) ∈ (elements record.commandBuffers).map fun entry => (entry.1, entry.2.toHandle) :=
      Multiset.mem_map_of_mem _ (mem_elements.2 hmem)
    rw [hm.commandBuffers] at hmem
    obtain ⟨object, hobject, he⟩ := (Multiset.mem_filterMap _ _).1 hmem
    obtain ⟨hobject, howner⟩ := mem_objectsOf.1 hobject
    cases object with
    | commandBuffer handle found place' =>
      obtain ⟨rfl, rfl⟩ : found = pool ∧ place' = place.toHandle := by simpa [Object.commandBuffer?] using he
      obtain rfl : handle = owner.toHandle := howner
      exact hobject
    | _ => cases he
  · exact hsd.commandBuffers pool place hmem
  · obtain ⟨entry, he⟩ := Registry.contains_iff.1 hc
    have hfence : ∃ object ∈ objectsOf owner.toHandle live, object.isFence fence := by
      by_contra hn
      have hunknown : record.fences.grant? fence = none := ha.fence_unknown hs hb fun object hm hp => hn ⟨object, hm, hp⟩
      rw [Registry.grant?_eq_none_iff, he] at hunknown
      cases hunknown
    obtain ⟨object, hobject, hp⟩ := hfence
    obtain ⟨explicit, heq⟩ := Object.eq_fence hp
    obtain ⟨hmem, howner⟩ := mem_objectsOf.1 hobject
    rw [howner] at heq
    -- A fence without callbacks of its own has no entry.
    cases explicit with
    | none =>
      have := hr.fences fence none (heq ▸ hobject)
      rw [Registry.get?, he] at this
      cases this
    | some set => exact ⟨set, heq ▸ hmem⟩
  · have := hr.fences fence (some set) (mem_objectsOf.2 ⟨hlive, rfl⟩)
    obtain ⟨entry, he, -⟩ := Registry.get?_eq_some_iff.1 this
    exact Registry.contains_iff.2 ⟨entry, he⟩
  · obtain ⟨entry, he, rfl⟩ := Registry.references?_eq_some_iff.1 hc
    have h₁ := hm.fences fence
    have h₂ := hr.oneFence fence
    have h₃ := (hsd.fences fence entry he).1
    have h₄ : entry.references.toNat ≠ 0 := fun hz => h₃ (UInt32.toNat_inj.1 hz)
    rw [Registry.references_of_some he] at h₁
    exact UInt32.toNat_inj.1 (by rw [UInt32.toNat_one]; omega)

end Strict

/-- Both invariants hold after all uses in which handles are not repeated. -/
theorem Reaches.invariant_distinct [Reckoning] (h : Reaches Event.Distinct history bridge)
    (hn : ¬Reckoning.strict) : Invariant history bridge ∧ Recorded bridge (liveAfter history) := by
  induction h with
  | initial => exact ⟨.initial, .initial⟩
  | @step history before _ event _ ha hl ih =>
    obtain ⟨hi, hr⟩ := ih
    have hp := ha.toValid.permitted hi.agrees (ha.bounded hi.agrees hi.sound hr) fun set _ hs => absurd hs hn
    obtain ⟨owner, natives, ho, hk⟩ := hi.outcome hp ha.fresh hl
    exact ⟨hi.step ho ha.fresh hk, hr.step hi.agrees hi.sound ha.toUnrepeated ho hk⟩

/-- After every use in which the native driver repeats no handle that is in use, each device has entries exactly for its
live pools and its live fences with callbacks of their own, and the references that they call for; the live objects are
exactly those that have records; and no handle was ever missing from a registry. -/
theorem devices_registered (h : Reaches Event.Distinct history bridge) :
    (∀ (owner : Address) (record : Device), bridge.blocks[owner]? = some (.device record) →
        record.Registered bridge (liveAfter history) owner) ∧
      Agrees bridge (liveAfter history) ∧
      (∀ handle, ⟨.notice (.releaseUnregistered handle), ()⟩ ∉ traceOf history) ∧
      ∀ handle, ⟨.notice (.poolUnregistered handle), ()⟩ ∉ traceOf history := by
  let _ : Reckoning := ⟨False⟩
  obtain ⟨hi, hr⟩ := h.invariant_distinct id
  refine ⟨fun owner record hb => hr.registered hi.agrees hi.sound hb, hi.agrees, fun handle hm => ?_, fun handle hm => ?_⟩
  · exact absurd (hi.quiet _ hm) (by simp [Exchange.isAlarm])
  · exact absurd (hi.quiet _ hm) (by simp [Exchange.isAlarm])

/-- A test for events of uses in which handles are not repeated. -/
def Event.DistinctForSure (history : List Event) (event : Event) : Prop :=
  event.check (liveAfter history) ∧ ¬event.repeats (liveAfter history) ∧
    event.trace.Fresh (Trace.held [] (traceOf history)) ∧ (liveAfter history).length + event.requested < 2 ^ 32 - 1

instance (history : List Event) (event : Event) : Decidable (Event.DistinctForSure history event) :=
  inferInstanceAs (Decidable (_ ∧ _))

theorem Event.DistinctForSure.distinct (h : event.DistinctForSure history) : event.Distinct history where
  toValid := valid_of_check h.1
  toUnrepeated := unrepeated_of_not_repeats h.2.1
  fresh := h.2.2.1
  few := by
    obtain ⟨-, -, -, h⟩ := h
    obtain ⟨call, trace, answer⟩ := event
    rintro handle request native natives rfl -
    exact (Nat.add_le_add_right (countP_objectsOf_le ..) _).trans_lt h

/-- The device of the sample has an entry for its pool, with a reference for the pool and one for the command buffer that
is left, and an entry for its fence. -/
theorem devices_registered_sample : Reaches Event.Distinct Sample.history Sample.bridge ∧
    (∀ (owner : Address) (record : Device), Sample.bridge.blocks[owner]? = some (.device record) →
      record.Registered Sample.bridge (liveAfter Sample.history) owner) ∧
    (Sample.bridge.record? .device Sample.device).bind (·.pools.references? Sample.pool) = some 2 := by
  have h : Reaches Event.DistinctForSure Sample.history Sample.bridge := reaches_session _ (by decide +kernel)
  have h := h.mono fun _ _ => Event.DistinctForSure.distinct
  exact ⟨h, (devices_registered h).1, by decide +kernel⟩

end VulkanBridge
