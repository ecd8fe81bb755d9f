import VulkanBridge.Proofs.Environment
import VulkanBridge.Proofs.Valid
/-!
# Memory of the driver

After every event the driver holds exactly the memory that its records call for, each block obtained from the allocator
that goes with it (`settles_owned`).
-/

namespace VulkanBridge

/-- The arrays are there that an instance or device needs: none of them is empty, and none is missing. -/
structure Bridge.Shaped (bridge : Bridge) : Prop where
  capacity : ∀ (address : Address) record, bridge.blocks[address]? = some (.inst record) →
    ∀ array ∈ record.physicalDevices, array.capacity ≠ 0
  families : ∀ (address : Address) record, bridge.blocks[address]? = some (.device record) →
    (record.familyBlock.isSome ↔ record.families ≠ [])
  queues : ∀ (address : Address) record, bridge.blocks[address]? = some (.device record) →
    ∀ family ∈ record.families, family.queues.isSome ↔ family.count ≠ 0

/-- The event is proper, and callbacks that an object is created with can free what they allocate. -/
structure Event.Freeing (history : List Event) (event : Event) : Prop extends Event.Proper history event where
  free : ∀ set ∈ event.call.explicit?, set.free.isSome

/-- Of what the driver obtained, it has not given back exactly what its records own; and the live objects are exactly
those that have records. -/
theorem settles_owned {history : List Event} {bridge : Bridge} (h : Reaches Event.Freeing history bridge) :
    (traceOf history).Settles 0 bridge.owned ∧
      (∀ address, address ∈ Trace.held [] (traceOf history) ↔ address ∈ bridge.owned.map Grant.address) ∧
      Agrees bridge (liveAfter history) ∧ bridge.Shaped := by
  let _ : Reckoning := ⟨True⟩
  have hi : Invariant history bridge := h.invariant (fun _ _ => Event.Freeing.toProper) fun _ _ he set hm _ => he.free set hm
  have hsettles : (traceOf history).Settles 0 bridge.owned := hi.accounts.settles trivial
  refine ⟨hsettles, fun address => ⟨fun hm => ?_, fun hm => ?_⟩, hi.agrees, ?_⟩
  · exact hsettles.mem_of_held (fun _ hm => absurd hm List.not_mem_nil) address hm
  · obtain ⟨grant, hg, rfl⟩ := Multiset.mem_map.1 hm
    exact hi.occupies.within grant hg
  · constructor
    · exact fun address record hb => Instance.Sound.capacity (hi.sound address _ hb)
    · exact fun address record hb => Device.Sound.familyBlock (hi.sound address _ hb)
    · exact fun address record hb => Device.Sound.queues (hi.sound address _ hb)

/-- A test for events of uses of callbacks that can free. -/
def Event.FreeingForSure (history : List Event) (event : Event) : Prop :=
  event.ProperForSure history ∧ ∀ set ∈ event.call.explicit?, set.free.isSome

instance (history : List Event) (event : Event) : Decidable (Event.FreeingForSure history event) :=
  inferInstanceAs (Decidable (_ ∧ _))

theorem Event.FreeingForSure.freeing {history : List Event} {event : Event} (h : event.FreeingForSure history) :
    event.Freeing history where
  toProper := h.1.proper
  free := h.2

/-- The sample holds memory of three callers and has five live objects. -/
theorem settles_owned_sample : Reaches Event.Freeing Sample.history Sample.bridge ∧
    (liveAfter Sample.history).length = 5 ∧ (traceOf Sample.history).Settles 0 Sample.bridge.owned ∧
      Agrees Sample.bridge (liveAfter Sample.history) := by
  have h : Reaches Event.FreeingForSure Sample.history Sample.bridge := reaches_session _ (by decide +kernel)
  have h := h.mono fun _ _ => Event.FreeingForSure.freeing
  obtain ⟨hsettles, -, hagrees, -⟩ := settles_owned h
  exact ⟨h, by decide +kernel, hsettles, hagrees⟩

end VulkanBridge
