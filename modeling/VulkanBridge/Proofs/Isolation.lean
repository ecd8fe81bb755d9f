import VulkanBridge.Proofs.Loader
/-!
# Devices, pools and fences apart

A call on pools or fences is about one device, and about the pool or the fence that it names or returns (`Concern`). The
handles are those of the native driver, so that other devices may have pools or fences of the same handle, and a pool may
have the handle of a fence. Still such a call leaves all other devices with what belongs to them as they are, and of its
own device all that does not go with that handle (`Device.Besides`, `devices_apart`).
-/

namespace VulkanBridge

/-- What a call on pools or fences is about: the device it is made on, and the pool or the fence that it names or
returns. -/
structure Concern where
  device : Option Handle
  pool : Option NativeHandle
  fence : Option NativeHandle

/-- What the event is about, if its call is one on pools or fences. -/
def Event.concern? : Event → Option Concern
  | ⟨.createPool device _ _, _, (_, pool)⟩ => some ⟨device, pool, none⟩
  | ⟨.destroyPool device pool _, _, _⟩ => some ⟨device, some pool, none⟩
  | ⟨.allocateCommandBuffers device request, _, _⟩ => some ⟨device, request.map (·.pool), none⟩
  | ⟨.freeCommandBuffers device pool _, _, _⟩ => some ⟨device, some pool, none⟩
  | ⟨.createFence device _ _, _, (_, fence)⟩ => some ⟨device, none, fence⟩
  | ⟨.destroyFence device fence _, _, _⟩ => some ⟨device, none, some fence⟩
  | _ => none

/-- A device has changed to another in nothing but what goes with the handle of one pool, if there is one, and of one
fence, if there is one. -/
structure Device.Besides (device changed : Device) (pool fence : Option NativeHandle) : Prop
    extends device.SameDevice changed where
  pools : ∀ other, some other ≠ pool → changed.pools.entries[other]? = device.pools.entries[other]?
  fences : ∀ other, some other ≠ fence → changed.fences.entries[other]? = device.fences.entries[other]?
  commandBuffers : ∀ other place, some other ≠ pool →
    ((other, place) ∈ changed.commandBuffers ↔ (other, place) ∈ device.commandBuffers)

section Registry

variable {registry result : Registry} {handle : UInt64}

/-- The entry of a handle is all that is recorded of it: where it lies, its allocator and its references. -/
theorem Registry.entries_eq (hg : result.grant? handle = registry.grant? handle)
    (hr : result.references handle = registry.references handle) :
    result.entries[handle]? = registry.entries[handle]? := by
  unfold grant? at hg
  unfold references at hr
  cases hnew : result.entries[handle]? with
  | none =>
    rw [hnew] at hg
    exact (Option.map_eq_none_iff.1 hg.symm).symm
  | some new =>
    obtain ⟨old, hold, hgrant⟩ := Option.map_eq_some_iff.1 (hg.symm.trans (congrArg (Option.map _) hnew))
    rw [hnew, hold] at hr
    rw [hold]
    obtain ⟨allocator, references, address⟩ := new
    obtain ⟨allocator', references', address'⟩ := old
    cases hgrant
    obtain rfl := UInt32.toNat_inj.1 hr
    rfl

end Registry

namespace Device

variable {device changed : Device} {pool fence : Option NativeHandle} {handle other : NativeHandle} {trace : Trace}

theorem Besides.refl (device : Device) (pool fence : Option NativeHandle) : device.Besides device pool fence :=
  ⟨.refl device, fun _ _ => rfl, fun _ _ => rfl, fun _ _ _ => Iff.rfl⟩

/-- A pool that has the same command buffers has as many. -/
theorem held_congr (h : ∀ place, (other, place) ∈ changed.commandBuffers ↔ (other, place) ∈ device.commandBuffers) :
    changed.held other = device.held other := by
  rw [held, held, Multiset.countP_eq_card_filter, Multiset.countP_eq_card_filter]
  congr 1
  refine (Multiset.Nodup.ext ((nodup_elements _).filter _) ((nodup_elements _).filter _)).2 fun entry => ?_
  simp only [Multiset.mem_filter, mem_elements]
  constructor
  · rintro ⟨hm, rfl⟩
    exact ⟨(h entry.2).1 hm, rfl⟩
  · rintro ⟨hm, rfl⟩
    exact ⟨(h entry.2).2 hm, rfl⟩

/-- Command buffers of one pool are added to those of the others. -/
theorem mem_of_add {addresses : List Address} {place : Address}
    (h : elements changed.commandBuffers = (addresses.map (handle, ·) : Multiset _) + elements device.commandBuffers)
    (hne : some other ≠ some handle) : (other, place) ∈ changed.commandBuffers ↔ (other, place) ∈ device.commandBuffers := by
  rw [← mem_elements, ← mem_elements, h, Multiset.mem_add]
  refine or_iff_right fun hm => ?_
  obtain ⟨address, -, he⟩ := List.mem_map.1 (Multiset.mem_coe.1 hm)
  exact hne (congrArg some (Prod.mk.inj he).1.symm)

/-- Where command buffers of one pool come or go, its entry alone has other references. -/
theorem Regroups.besides [Reckoning] (h : device.Regroups trace changed)
    (hm : ∀ other place, some other ≠ pool →
      ((other, place) ∈ changed.commandBuffers ↔ (other, place) ∈ device.commandBuffers)) :
    device.Besides changed pool fence where
  toSameDevice := h.same
  pools other hne := by
    have := h.surplus other
    have := held_congr fun place => hm other place hne
    exact Registry.entries_eq (h.entries other) (by omega)
  fences other _ := by rw [h.fences]
  commandBuffers := hm

end Device

/-- An entry is put under one handle. -/
theorem Registry.Inserts.entries {registry result : Registry} {handle other : UInt64} {pending : Pending} {trace : Trace}
    [Reckoning] (h : registry.Inserts handle pending trace result) (hne : some other ≠ some handle) :
    result.entries[other]? = registry.entries[other]? := by
  have hne : other ≠ handle := fun he => hne (congrArg some he)
  refine entries_eq (h.others other hne) ?_
  rw [h.references, if_neg (Ne.symm hne), Nat.add_zero]

section Outcome

variable [Reckoning] {before after : Bridge} {owner : Address} {event : Event} {concern : Concern}

/-- An event that is about a pool or a fence changes nothing, or it changes its device in what goes with that handle. -/
theorem Outcome.besides (h : Outcome before owner event after) (hc : event.concern? = some concern) :
    after.blocks = before.blocks ∨ (concern.device = some owner.toHandle ∧ ∃ device changed : Device,
      before.blocks[owner]? = some (.device device) ∧ after.blocks[owner]? = some (.device changed) ∧
        device.Besides changed concern.pool concern.fence) := by
  cases h with
  | kept hb _ _ _ => exact .inl hb
  | createdInstance _ _ _ | populated _ _ _ | destroyedInstance _ _ _ | createdDevice _ _ _ | destroyedDevice _ => cases hc
  | createdPool hm _ =>
    cases hc
    obtain ⟨_, _, -, -, -, hins⟩ := hm.registers
    refine .inr ⟨rfl, _, _, hm.found, hm.left ▸ Bridge.blocks_put_self, ?_⟩
    exact ⟨⟨rfl, rfl, rfl, rfl, rfl⟩, fun _ hne => hins.entries hne, fun _ _ => rfl, fun _ _ _ => Iff.rfl⟩
  | @destroyedPool _ _ device changed pool _ _ hd =>
    cases hc
    have hm (other : NativeHandle) (place : Address) (hne : some other ≠ some pool) :
        (other, place) ∈ changed.commandBuffers ↔ (other, place) ∈ device.commandBuffers := by
      rw [← mem_elements, hd.commandBuffers, Multiset.mem_filter, mem_elements]
      exact and_iff_left fun he => hne (congrArg some he)
    refine .inr ⟨rfl, _, _, hd.found, hd.left, ⟨hd.same, fun other hne => ?_, fun other _ => by rw [hd.fences], hm⟩⟩
    have hother : other ≠ pool := fun he => hne (congrArg some he)
    have := hd.surplus other hother
    have := Device.held_congr fun place => hm other place hne
    exact Registry.entries_eq (hd.entries other hother) (by omega)
  | allocated hr _ hall =>
    cases hc
    exact .inr ⟨rfl, _, _, hr.found, hr.left, hr.regroups.besides fun _ _ => Device.mem_of_add hall⟩
  | freed hr _ hall =>
    cases hc
    exact .inr ⟨rfl, _, _, hr.found, hr.left, hr.regroups.besides fun _ _ hne => (Device.mem_of_add hall hne).symm⟩
  | createdFence hm _ =>
    cases hc
    obtain ⟨_, _, -, -, -, hins⟩ := hm.registers
    refine .inr ⟨rfl, _, _, hm.found, hm.left ▸ Bridge.blocks_put_self, ?_⟩
    exact ⟨⟨rfl, rfl, rfl, rfl, rfl⟩, fun _ _ => rfl, fun _ hne => hins.entries hne, fun _ _ _ => Iff.rfl⟩
  | createdPlainFence _ _ => exact .inl rfl
  | @destroyedFence _ _ device fence fences _ _ hd =>
    cases hc
    refine .inr ⟨rfl, device, { device with fences }, hd.found, hd.left ▸ Bridge.blocks_put_self,
      ⟨⟨rfl, rfl, rfl, rfl, rfl⟩, fun _ _ => rfl, fun other hne => ?_, fun _ _ _ => Iff.rfl⟩⟩
    have hother : other ≠ fence := fun he => hne (congrArg some he)
    refine Registry.entries_eq (hd.entries other hother) ?_
    rw [hd.references, if_neg (Ne.symm hother), Nat.sub_zero]

end Outcome

/-! ## Any use -/

/-- A part that an owner has before and after a step which takes parts away is the same. -/
theorem Bridge.Steady.part_eq [Reckoning] {before after : Bridge} {owner part : Address} (h : before.Steady after)
    (hs : before.Sound) (hs' : after.Sound) (hb : part ∈ before.partsAt owner) (ha : part ∈ after.partsAt owner) :
    after.blocks[part]? = before.blocks[part]? := by
  obtain ⟨old, hold, hp⟩ := hs.part hb
  obtain ⟨new, hnew, -⟩ := hs'.part ha
  rw [hold, hnew, h.eq hold hp hnew]

/-- What a call on pools or fences leaves as it is. -/
structure Bridge.Isolates (before after : Bridge) (concern : Concern) : Prop where
  /-- Other devices, and all instances, with what belongs to them. -/
  others : ∀ (owner : Address) (block : Block), block.IsOwner → concern.device ≠ some owner.toHandle →
    before.blocks[owner]? = some block →
      after.blocks[owner]? = some block ∧ ∀ part ∈ block.parts, after.blocks[part]? = before.blocks[part]?
  /-- The device itself, its queues, and the records of command buffers of other pools. -/
  own : ∀ (owner : Address) (device : Device), concern.device = some owner.toHandle →
    before.blocks[owner]? = some (.device device) → ∃ changed, after.blocks[owner]? = some (.device changed) ∧
      device.Besides changed concern.pool concern.fence ∧
      (∀ family ∈ device.families, ∀ block ∈ family.queues, after.blocks[block]? = before.blocks[block]?) ∧
      ∀ other place, some other ≠ concern.pool → (other, place) ∈ device.commandBuffers →
        after.blocks[place]? = before.blocks[place]?

section Use

variable {history : List Event} {before after : Bridge} {event : Event} {concern : Concern}

/-- Whatever comes of a call on pools or fences after any use, it leaves other devices as they are, and of its own device
all that does not go with the handle of the pool or the fence. -/
theorem devices_apart (h : Attains Event.Proper history before) (hp : event.Proper history)
    (hl : event.Leads before after) (hc : event.concern? = some concern) : before.Isolates after concern := by
  let _ : Reckoning := ⟨False⟩
  have hs : Settled history before := h.settled_of_proper id
  obtain ⟨place, natives, ho, hk, ht⟩ := hs.proceeds_of_proper id hp hl
  have hsteady := ht.steady
  obtain hblocks | ⟨hdevice, device, changed, hfound, hleft, hbesides⟩ := ho.besides hc
  · refine ⟨fun owner block _ _ hb => ⟨hblocks ▸ hb, fun _ _ => by rw [hblocks]⟩, fun owner device _ hb => ?_⟩
    exact ⟨device, hblocks ▸ hb, .refl .., fun _ _ _ _ => by rw [hblocks], fun _ _ _ _ => by rw [hblocks]⟩
  · constructor
    · intro owner block howner hne hb
      have hplace : owner ≠ place := by
        rintro rfl
        exact hne hdevice
      have ha := (hk.others owner block hplace howner).2 hb
      refine ⟨ha, fun part hm => ?_⟩
      exact hsteady.part_eq hs.sound hk.sound (Bridge.mem_partsAt_iff.2 ⟨block, hb, hm⟩)
        (Bridge.mem_partsAt_iff.2 ⟨block, ha, hm⟩)
    · intro owner found hown hb
      obtain rfl : owner = place := toHandle_inj.1 (Option.some.inj (hown.symm.trans hdevice))
      obtain rfl : device = found := by simpa using hfound.symm.trans hb
      -- What belongs to the device before and after has not changed, as parts of owners never do.
      have part {address : Address} (hold : address ∈ device.parts) (hnew : address ∈ changed.parts) :
          after.blocks[address]? = before.blocks[address]? :=
        hsteady.part_eq hs.sound hk.sound (Bridge.mem_partsAt_iff.2 ⟨_, hfound, hold⟩)
          (Bridge.mem_partsAt_iff.2 ⟨_, hleft, hnew⟩)
      refine ⟨changed, hleft, hbesides, fun family hfamily block hblock => ?_, fun other address hne hm => ?_⟩
      · exact part (Device.mem_parts_iff.2 (.inl ⟨family, hfamily, hblock⟩))
          (Device.mem_parts_iff.2 (.inl ⟨family, hbesides.families ▸ hfamily, hblock⟩))
      · exact part (Device.mem_parts_iff.2 (.inr ⟨other, hm⟩))
          (Device.mem_parts_iff.2 (.inr ⟨other, (hbesides.commandBuffers other address hne).2 hm⟩))

end Use

/-! ## One handle for all -/

namespace Sample

/-- A device besides the first one. -/
def otherDevice : Handle := ⟨⟨212992⟩, 0⟩

/-- The native driver gives all pools and fences the same handle, and is obliging otherwise. -/
def uniform : Environment
  | _, .native (.createPool ..) | _, .native (.createFence ..) => .ok pool
  | number, request => Environment.obliging number request

/-- Two devices with a pool each, the first one with a command buffer and a fence. -/
def namesakes : List Call :=
  [.createFence (some device) (some ⟨0⟩) (some (callbacks 3)),
   .createPool (some otherDevice) (some ⟨0, 0⟩) none,
   .allocateCommandBuffers (some device) (some ⟨pool, 0, 1⟩),
   .createPool (some device) (some ⟨0, 0⟩) none,
   .createDevice (some physicalDevice) (some ⟨0, 0, .present [⟨0, 1⟩]⟩) (some (callbacks 4)) true,
   .createDevice (some physicalDevice) (some ⟨0, 0, .present [⟨0, 1⟩]⟩) (some (callbacks 2)) true,
   .enumeratePhysicalDevices (some inst) (some 1) true,
   .createInstance (some ⟨0, 0, 0⟩) (some (callbacks 1)) true]

/-- The destruction of the first device's pool, and the state it leads to. -/
def destroyed : Event × Bridge :=
  (Call.destroyPool (some device) pool none).play uniform (traceOf (session uniform namesakes).1).length
    (session uniform namesakes).2

end Sample

/-- The pool of the first device goes. The pool of the other and the fence of the first have its handle, and stay. -/
theorem devices_apart_namesakes :
    Attains Event.Proper (session Sample.uniform Sample.namesakes).1 (session Sample.uniform Sample.namesakes).2 ∧
    Sample.destroyed.1.Proper (session Sample.uniform Sample.namesakes).1 ∧
    Sample.destroyed.1.Leads (session Sample.uniform Sample.namesakes).2 Sample.destroyed.2 ∧
    Sample.destroyed.1.concern? = some ⟨some Sample.device, some Sample.pool, none⟩ ∧
    Bridge.Isolates (session Sample.uniform Sample.namesakes).2 Sample.destroyed.2
      ⟨some Sample.device, some Sample.pool, none⟩ ∧
    ((session Sample.uniform Sample.namesakes).2.record? .device Sample.otherDevice).any (·.pools.contains Sample.pool) ∧
    ((session Sample.uniform Sample.namesakes).2.record? .device Sample.device).any (·.fences.contains Sample.pool) := by
  have h : Attains Event.Proper (session Sample.uniform Sample.namesakes).1 (session Sample.uniform Sample.namesakes).2 :=
    attains_session (by decide +kernel)
  have hp : Sample.destroyed.1.ProperForSure (session Sample.uniform Sample.namesakes).1 := by decide +kernel
  have hc : Sample.destroyed.1.concern? = some ⟨some Sample.device, some Sample.pool, none⟩ := rfl
  obtain ⟨event, after, hl, he⟩ := Call.exists_leads Sample.uniform (.destroyPool (some Sample.device) Sample.pool none)
    (traceOf (session Sample.uniform Sample.namesakes).1).length (session Sample.uniform Sample.namesakes).2
  rw [show Sample.destroyed = (event, after) from he] at hp hc ⊢
  exact ⟨h, hp.proper, hl, hc, devices_apart h hp.proper hl hc, by decide +kernel, by decide +kernel⟩

end VulkanBridge
