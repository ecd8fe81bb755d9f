import VulkanBridge.Proofs.Valid
/-!
# Allocators that are recorded for live objects

As long as the native driver gives no two live pools or fences of a device the same handle, a live pool has its own
allocator recorded, a live fence has it recorded exactly if it was created with explicit callbacks, and every event keeps
it so (`Recorded.step`).
-/

namespace VulkanBridge

/-- A handle that an event brings for a pool or fence is that of no live one of the device. -/
structure Event.Unrepeated (live : List Object) (event : Event) : Prop where
  newPool : ∀ handle info explicit trace code pool,
    event = ⟨.createPool (some handle) info explicit, trace, (code, some pool)⟩ →
      ∀ object ∈ live, object.owner = handle → ¬object.isPool pool
  newFence : ∀ handle info explicit trace code fence,
    event = ⟨.createFence (some handle) info explicit, trace, (code, some fence)⟩ →
      ∀ object ∈ live, object.owner = handle → ¬object.isFence fence

/-- A test for handles that are in use. -/
def Event.repeats (live : List Object) : Event → Bool
  | ⟨.createPool (some handle) _ _, _, (_, some pool)⟩ => live.any fun object => object.owner = handle && object.isPool pool
  | ⟨.createFence (some handle) _ _, _, (_, some fence)⟩ =>
    live.any fun object => object.owner = handle && object.isFence fence
  | _ => false

theorem Event.unrepeated_of_not_repeats {live : List Object} {event : Event} (h : ¬event.repeats live) :
    event.Unrepeated live where
  newPool handle info explicit trace code pool he object hm ho hp := by
    subst he
    exact h (List.any_eq_true.2 ⟨object, hm, by simp [ho, hp]⟩)
  newFence handle info explicit trace code fence he object hm ho hp := by
    subst he
    exact h (List.any_eq_true.2 ⟨object, hm, by simp [ho, hp]⟩)

namespace Event.Unrepeated

variable {live : List Object} {event : Event} {handle : Handle} {explicit : Option CallbackSet} {trace : Trace}
  {code : ResultCode}

/-- No pool of the device has the handle of a new one. -/
theorem not_isPool {info : Option PoolInfo} {pool : NativeHandle} (h : event.Unrepeated live)
    (he : event = ⟨.createPool (some handle) info explicit, trace, (code, some pool)⟩) :
    ∀ object ∈ objectsOf handle live, ¬object.isPool pool := by
  intro object hm
  obtain ⟨hlive, howner⟩ := mem_objectsOf.1 hm
  exact h.newPool handle info explicit trace code pool he object hlive howner

/-- No fence of the device has the handle of a new one. -/
theorem not_isFence {info : Option FenceInfo} {fence : NativeHandle} (h : event.Unrepeated live)
    (he : event = ⟨.createFence (some handle) info explicit, trace, (code, some fence)⟩) :
    ∀ object ∈ objectsOf handle live, ¬object.isFence fence := by
  intro object hm
  obtain ⟨hlive, howner⟩ := mem_objectsOf.1 hm
  exact h.newFence handle info explicit trace code fence he object hlive howner

end Event.Unrepeated

namespace Child

/-- The object of a device that has this handle and was created with these callbacks. -/
def object : Child → Handle → NativeHandle → Option CallbackSet → Object
  | pool => Object.pool
  | fence => Object.fence

/-- The allocator that a registry has for an object. A fence without explicit callbacks has none. -/
def recorded : Child → Allocator → Option CallbackSet → Option Allocator
  | pool, allocator, explicit => some (Allocator.merge explicit allocator)
  | fence, allocator, explicit => explicit.map fun set => Allocator.merge (some set) allocator

variable {child sibling : Child} {owner : Handle} {handle other : NativeHandle} {explicit found : Option CallbackSet}
  {object : Object}

/-- An object passes the test for its own kind and handle, and no other test. -/
theorem describes_object :
    sibling.describes other (child.object owner handle explicit) ↔ sibling = child ∧ other = handle := by
  cases sibling <;> cases child <;> simp [describes, Child.object, Object.isPool, Object.isFence, eq_comm]

/-- The object tells what it is, its handle and its callbacks. -/
theorem object_inj (h : sibling.object owner other found = child.object owner handle explicit) :
    sibling = child ∧ other = handle ∧ found = explicit := by
  cases sibling <;> cases child <;> cases h <;> exact ⟨rfl, rfl, rfl⟩

/-- A command buffer is not an object that a device has a registry for. -/
theorem commandBuffer?_of_describes (h : child.describes handle object) : object.commandBuffer? = none := by
  cases child with
  | pool => exact Object.commandBuffer?_of_isPool h
  | fence => exact Object.commandBuffer?_of_isFence h

end Child

/-- Command buffers leave both registries as they are, apart from the counts. -/
theorem Device.Regroups.registries [Reckoning] {device changed : Device} {trace : Trace} (h : device.Regroups trace changed)
    (child : Child) (handle : NativeHandle) :
    (child.registry changed).get? handle = (child.registry device).get? handle := by
  cases child with
  | pool => exact h.allocators handle
  | fence => rw [Child.registry, Child.registry, h.fences]

/-- No two live pools or fences of a device have one handle, and the registries know what each of them was created
with. -/
structure Device.Recorded (owner : Address) (record : Device) (objects : Multiset Object) : Prop where
  onePool : ∀ pool, objects.countP (·.isPool pool) ≤ 1
  oneFence : ∀ fence, objects.countP (·.isFence fence) ≤ 1
  pools : ∀ pool explicit, .pool owner.toHandle pool explicit ∈ objects →
    record.pools.get? pool = some (Allocator.merge explicit record.allocator)
  fences : ∀ fence explicit, .fence owner.toHandle fence explicit ∈ objects →
    record.fences.get? fence = explicit.map fun set => Allocator.merge (some set) record.allocator

namespace Device.Recorded

variable {owner : Address} {record changed : Device} {objects rest : Multiset Object} {handle : NativeHandle}

theorem of_children (hone : ∀ (child : Child) handle, objects.countP (child.describes handle ·) ≤ 1)
    (hrecorded : ∀ (child : Child) handle explicit, child.object owner.toHandle handle explicit ∈ objects →
      (child.registry record).get? handle = child.recorded record.allocator explicit) :
    record.Recorded owner objects where
  onePool := hone .pool
  oneFence := hone .fence
  pools := hrecorded .pool
  fences := hrecorded .fence

/-- No two live objects of a registry have one handle. -/
theorem one (h : record.Recorded owner objects) (child : Child) (handle : NativeHandle) :
    objects.countP (child.describes handle ·) ≤ 1 := by
  cases child with
  | pool => exact h.onePool handle
  | fence => exact h.oneFence handle

/-- Each registry has what its live objects were created with. -/
theorem get? (h : record.Recorded owner objects) {child : Child} {explicit : Option CallbackSet}
    (hm : child.object owner.toHandle handle explicit ∈ objects) :
    (child.registry record).get? handle = child.recorded record.allocator explicit := by
  cases child with
  | pool => exact h.pools handle explicit hm
  | fence => exact h.fences handle explicit hm

/-- Objects go, and the pools and fences that stay keep their entries. -/
theorem of_le (h : record.Recorded owner objects) (hle : rest ≤ objects) (ha : changed.allocator = record.allocator)
    (hkept : ∀ (child : Child) handle, ∀ object ∈ rest, child.describes handle object →
      (child.registry changed).get? handle = (child.registry record).get? handle) :
    changed.Recorded owner rest := by
  refine of_children (fun child handle => ?_) fun child handle explicit hm => ?_
  · exact (Multiset.countP_le_of_le _ hle).trans (h.one child handle)
  · rw [hkept child handle _ hm (Child.describes_object.2 ⟨rfl, rfl⟩), ha, h.get? (Multiset.mem_of_le hle hm)]

/-- Command buffers come, and the registries stay as they are. -/
theorem with_commandBuffers (pool : NativeHandle) (handles : List Handle) (h : record.Recorded owner objects)
    (ha : changed.allocator = record.allocator)
    (hkept : ∀ (child : Child) handle, (child.registry changed).get? handle = (child.registry record).get? handle) :
    changed.Recorded owner ((handles.map (.commandBuffer owner.toHandle pool) : List Object) + objects) := by
  have hnew {child : Child} {handle : NativeHandle} {object : Object}
      (hm : object ∈ ((handles.map (.commandBuffer owner.toHandle pool) : List Object) : Multiset Object)) :
      ¬child.describes handle object := by
    obtain ⟨found, -, rfl⟩ := List.mem_map.1 (Multiset.mem_coe.1 hm)
    exact fun hd => nomatch Child.commandBuffer?_of_describes hd
  refine of_children (fun child handle => ?_) fun child handle explicit hm => ?_
  · rw [Multiset.countP_add, Multiset.countP_eq_zero.2 fun object hm => hnew hm, Nat.zero_add]
    exact h.one child handle
  · have hold := (Multiset.mem_add.1 hm).resolve_left fun hm => hnew hm (Child.describes_object.2 ⟨rfl, rfl⟩)
    rw [hkept, ha, h.get? hold]

/-- A new object has its allocator recorded, and the other registry stays as it is. -/
theorem with_child (child : Child) {explicit : Option CallbackSet} (h : record.Recorded owner objects)
    (hnew : ∀ object ∈ objects, ¬child.describes handle object) (ha : changed.allocator = record.allocator)
    (hself : (child.registry changed).get? handle = child.recorded record.allocator explicit)
    (hothers : ∀ other, other ≠ handle → (child.registry changed).get? other = (child.registry record).get? other)
    (hkept : ∀ sibling : Child, sibling ≠ child → sibling.registry changed = sibling.registry record) :
    changed.Recorded owner (child.object owner.toHandle handle explicit ::ₘ objects) := by
  refine of_children (fun sibling other => ?_) fun sibling other found hm => ?_
  · rw [Multiset.countP_cons]
    by_cases hd : sibling.describes other (child.object owner.toHandle handle explicit)
    · obtain ⟨rfl, rfl⟩ := Child.describes_object.1 hd
      rw [Multiset.countP_eq_zero.2 hnew, if_pos hd]
    · rw [if_neg hd]
      exact h.one sibling other
  · obtain he | hold := Multiset.mem_cons.1 hm
    · obtain ⟨rfl, rfl, rfl⟩ := Child.object_inj he
      rw [hself, ha]
    · rw [ha, ← h.get? hold]
      by_cases hs : sibling = child
      · subst hs
        exact hothers other fun heq => hnew _ hold (Child.describes_object.2 ⟨rfl, heq.symm⟩)
      · rw [hkept sibling hs]

theorem cons {live : List Object} (object : Object) (ho : object.owner = owner.toHandle)
    (h : record.Recorded owner (object ::ₘ objectsOf owner.toHandle live)) :
    record.Recorded owner (objectsOf owner.toHandle (object :: live)) := by
  rwa [objectsOf_cons, if_pos ho]

end Device.Recorded

/-- All devices have recorded what their objects were created with. -/
def Recorded (bridge : Bridge) (live : List Object) : Prop :=
  ∀ (owner : Address) (device : Device), bridge.blocks[owner]? = some (.device device) →
    device.Recorded owner (objectsOf owner.toHandle live)

variable {bridge after : Bridge} {live : List Object} {owner : Address} {device : Device} {pool fence : NativeHandle}

namespace Recorded

theorem initial : Recorded .initial [] := by
  intro owner device h
  have : Bridge.initial.blocks[owner]? = none := Std.ExtTreeMap.getElem?_empty
  rw [this] at h
  cases h

variable [Reckoning] {event : Event}

/-- What becomes of the device that an outcome is about. -/
theorem self (h : Recorded bridge live) (ha : Agrees bridge live) (hs : bridge.Sound)
    (hu : event.Unrepeated live) (ho : Outcome bridge owner event after)
    (hb : after.blocks[owner]? = some (.device device)) :
    device.Recorded owner (objectsOf owner.toHandle (event.live live)) := by
  cases ho with
  | kept hblocks _ _ hl =>
    rw [hl live ha.rooted]
    exact h owner device (hblocks ▸ hb)
  | createdInstance hn hblocks hk =>
    rw [hblocks, Bridge.blocks_put_self] at hb
    cases hb
  | populated _ hafter _ =>
    rw [hafter] at hb
    cases hb
  | destroyedInstance _ hafter _ =>
    rw [hafter] at hb
    cases hb
  | @createdDevice _ info explicit _ _ _ native _ parent block built _ hn hm hk =>
    rw [hm.left, hn.found] at hb
    obtain rfl : Device.new native _ block _ = device := by simpa using hb
    refine .cons (.device owner.toHandle explicit info.queues.toList) rfl ?_
    rw [ha.vacant hn.place]
    exact ⟨fun _ => Nat.zero_le 1, fun _ => Nat.zero_le 1, fun _ _ hm => (nomatch Multiset.mem_singleton.1 hm),
      fun _ _ hm => (nomatch Multiset.mem_singleton.1 hm)⟩
  | destroyedDevice hd =>
    rw [hd.gone] at hb
    cases hb
  | @createdPool info explicit trace code found pending pool pools _ hm hk =>
    obtain ⟨first, last, -, -, -, hins⟩ := hm.registers
    rw [hm.left, Bridge.blocks_put_self] at hb
    obtain rfl : { found with pools } = device := by simpa using hb
    -- The handle is that of no live object, so the registry does not know it and records the allocator.
    have hnew := hu.not_isPool rfl
    refine .cons (.pool owner.toHandle pool explicit) rfl ((h owner found hm.found).with_child .pool hnew rfl ?_ ?_ ?_)
    · rw [Child.registry, Registry.get?_eq, (hins.unknown (ha.pool_unknown hs hm.found hnew)).1, Child.recorded,
        ← hm.allocator]
      rfl
    · exact fun other hne => Registry.get?_congr (hins.others other hne)
    · exact fun | .pool, hne => absurd rfl hne | .fence, _ => rfl
  | @destroyedPool explicit _ found changed pool _ hz hd =>
    have hr := h owner found hd.found
    obtain ⟨hle, hnone⟩ := objectsOf_erase_only (hr.onePool pool)
    rw [hd.left] at hb
    obtain rfl : changed = device := by simpa using hb
    show changed.Recorded owner (objectsOf owner.toHandle (if pool = 0 then live else _))
    rw [if_neg hz, objectsOf_filter]
    refine hr.of_le ((Multiset.filter_le _ _).trans hle) hd.same.allocator fun child other object hm hp => ?_
    cases child with
    | pool =>
      have hne : other ≠ pool := fun heq => hnone object (Multiset.mem_filter.1 hm).1 (heq ▸ hp)
      exact Registry.get?_congr (hd.entries other hne)
    | fence => rw [Child.registry, Child.registry, hd.fences]
  | @allocated request _ _ stored found changed new _ hr hnew hall =>
    rw [hr.left] at hb
    obtain rfl : changed = device := by simpa using hb
    have hregroups := hr.regroups
    have hrecorded (handles : List Handle) := (h owner found hr.found).with_commandBuffers request.pool handles
      hregroups.same.allocator hregroups.registries
    cases stored with
    | none => exact (Multiset.zero_add (objectsOf owner.toHandle live)).subst (motive := changed.Recorded owner) (hrecorded [])
    | some stored =>
      show changed.Recorded owner (objectsOf owner.toHandle ((stored.filterMap id).map _ ++ live))
      rw [objectsOf_commandBuffers]
      exact hrecorded _
  | @freed pool commandBuffers _ found changed addresses _ hr haddresses hall =>
    rw [hr.left] at hb
    obtain rfl : changed = device := by simpa using hb
    show changed.Recorded owner (objectsOf owner.toHandle (live.filter _))
    rw [objectsOf_filter]
    exact (h owner found hr.found).of_le (Multiset.filter_le _ _) hr.regroups.same.allocator fun child other _ _ _ =>
      hr.regroups.registries child other
  | @createdFence info set trace code found pending fence fences _ hm hk =>
    obtain ⟨first, last, -, -, -, hins⟩ := hm.registers
    rw [hm.left, Bridge.blocks_put_self] at hb
    obtain rfl : { found with fences } = device := by simpa using hb
    have hnew := hu.not_isFence rfl
    refine .cons (.fence owner.toHandle fence (some set)) rfl ((h owner found hm.found).with_child .fence hnew rfl ?_ ?_ ?_)
    · rw [Child.registry, Registry.get?_eq, (hins.unknown (ha.fence_unknown hs hm.found hnew)).1, Child.recorded,
        Option.map_some, Option.map_some, ← hm.allocator]
      rfl
    · exact fun other hne => Registry.get?_congr (hins.others other hne)
    · exact fun | .pool, _ => rfl | .fence, hne => absurd rfl hne
  | @createdPlainFence info code found fence hfound hk =>
    rw [hfound] at hb
    obtain rfl : found = device := by simpa using hb
    have hnew := hu.not_isFence rfl
    refine .cons (.fence owner.toHandle fence none) rfl
      ((h owner found hfound).with_child .fence hnew rfl ?_ (fun _ _ => rfl) fun _ _ => rfl)
    rw [Child.registry, Registry.get?_eq, ha.fence_unknown hs hfound hnew]
    rfl
  | @destroyedFence _ _ found fence fences _ hz hd =>
    have hr := h owner found hd.found
    obtain ⟨hle, hnone⟩ := objectsOf_erase_only (hr.oneFence fence)
    rw [hd.left, Bridge.blocks_put_self] at hb
    obtain rfl : { found with fences } = device := by simpa using hb
    show Device.Recorded owner _ (objectsOf owner.toHandle (if fence = 0 then live else _))
    rw [if_neg hz]
    refine hr.of_le hle rfl fun child other object hm hp => ?_
    cases child with
    | pool => rfl
    | fence => exact Registry.get?_congr (hd.entries other fun heq => hnone object hm (heq ▸ hp))

/-- Every event keeps the registries in line with what is live. -/
theorem step {trace natives : Trace} (h : Recorded bridge live) (ha : Agrees bridge live) (hs : bridge.Sound)
    (hu : event.Unrepeated live) (ho : Outcome bridge owner event after) (hk : bridge.Keeps owner trace natives after) :
    Recorded after (event.live live) := by
  intro address device hb
  by_cases he : address = owner
  · subst he
    exact h.self ha hs hu ho hb
  · rw [(ho.touches ha.rooted).others address he]
    exact h address device ((hk.others address (.device device) he trivial).1 hb)

end Recorded

end VulkanBridge
