import VulkanBridge.Proofs.Valid
/-!
# What an event does to records

`Bridge.Transition` says all that an event can do to the records in a state. What belongs to an owner stays as it is or
goes. An owner stays as it is in all but its children, or it is new, or it is an instance that gets its physical
devices. Every permitted event is such a transition (`Invariant.transition`).

From this it follows that the arrays of instances and devices are at all times as long as their owners say
(`Bridge.Full`).
-/

namespace VulkanBridge

variable {bridge between after : Bridge} {owner address : Address} {trace : Trace}

/-! ## Records that only go -/

namespace Bridge

/-- Records go, and no other changes. -/
def Sheds (bridge after : Bridge) : Prop :=
  ∀ address : Address, after.blocks[address]? = bridge.blocks[address]? ∨ after.blocks[address]? = none

/-- What belongs to an owner stays as it is or goes. -/
def Steady (bridge after : Bridge) : Prop :=
  ∀ (address : Address) (block : Block), bridge.blocks[address]? = some block → block.IsPart →
    after.blocks[address]? = some block ∨ after.blocks[address]? = none

namespace Sheds

theorem trans (hf : bridge.Sheds between) (hl : between.Sheds after) : bridge.Sheds after := by
  intro address
  obtain h | h := hl address
  · rw [h]
    exact hf address
  · exact .inr h

theorem remove (bridge : Bridge) (place : Address) : bridge.Sheds (bridge.remove place) := by
  intro address
  by_cases h : address = place
  · rw [h]
    exact .inr blocks_remove_self
  · exact .inl (blocks_remove h)

theorem remove? (bridge : Bridge) (place : Option Address) : bridge.Sheds (bridge.remove? place) := by
  cases place with
  | none => exact fun _ => .inl rfl
  | some place => exact remove bridge place

theorem removeQueues (bridge : Bridge) (families : List QueueFamily) : bridge.Sheds (bridge.removeQueues families) := by
  induction families generalizing bridge with
  | nil => exact fun _ => .inl rfl
  | cons family rest ih => exact (remove? bridge family.queues).trans (ih _)

theorem of_loses {addresses : List Address} (h : bridge.Loses after addresses) : bridge.Sheds after :=
  fun address => (h address).imp_right fun h => h.2

theorem steady (h : bridge.Sheds after) : bridge.Steady after := by
  intro address block hb _
  rw [← hb]
  exact h address

/-- Records that only go are steady, also where an owner is put in place of an owner, or where there was nothing. -/
theorem steady_put (h : bridge.Sheds between) (ho : ∀ block, bridge.blocks[owner]? = some block → block.IsOwner)
    (block : Block) : bridge.Steady (between.put owner block) := by
  intro address part hb hp
  have hne : address ≠ owner := by
    rintro rfl
    exact hp.not_owner (ho part hb)
  rw [blocks_put hne, ← hb]
  exact h address

end Sheds

theorem steady_of_blocks (h : after.blocks = bridge.blocks) : bridge.Steady after := by
  intro address block hb _
  rw [h]
  exact .inl hb

/-- A record that belongs to an owner and is there afterwards is what it was. -/
theorem Steady.eq (h : bridge.Steady after) {block found : Block} (hb : bridge.blocks[address]? = some block)
    (hp : block.IsPart) (ha : after.blocks[address]? = some found) : found = block := by
  obtain h | h := h address block hb hp
  · exact Option.some.inj (ha.symm.trans h)
  · rw [h] at ha
    cases ha

end Bridge

/-! ## Destructions -/

variable [Reckoning]

/-- Destroying a pool takes records of command buffers away and puts the device back. -/
theorem CommandPool.steady_destroy {handle : Option Handle} {pool : NativeHandle} {explicit : Option CallbackSet}
    {result : Unit} (hs : bridge.Sound) (h : (destroy handle pool explicit).Runs bridge trace result after) :
    bridge.Steady after := by
  unfold destroy at h
  split at h
  case isTrue =>
    obtain ⟨-, -, rfl⟩ := Action.runs_pure_iff.1 h
    exact Bridge.steady_of_blocks rfl
  case isFalse =>
    rw [Action.runs_bind_iff] at h
    obtain ⟨resolving, last, resolved, between, rfl, hr, h⟩ := h
    obtain ⟨rfl, ⟨owner, device, -, hb, rfl, rfl⟩ | ⟨-, rfl, -⟩⟩ := hs.runs_resolve hr rfl
    · simp only [Action.runs_bind_iff, Action.runs_lift_iff, Action.runs_modify_iff] at h
      obtain ⟨_, _, _, _, -, ⟨-, rfl⟩, _, _, pools, between, -, hfree, _, _, _, _, -, ⟨-, rfl⟩, -, rfl⟩ := h
      obtain ⟨_, hfree, -⟩ := CommandBuffer.runs_drain hfree
      refine (Bridge.Sheds.of_loses (CommandBuffer.loses_freeAll hfree)).steady_put (fun block hblock => ?_) _
      obtain rfl := Option.some.inj (hb.symm.trans hblock)
      trivial
    · obtain ⟨-, -, rfl⟩ := Action.runs_pure_iff.1 h
      exact Bridge.steady_of_blocks rfl

omit [Reckoning] in
theorem Device.sheds_dismantle {device : Device} {result : Unit}
    (h : (dismantle owner device).Runs bridge trace result after) : bridge.Sheds after := by
  unfold dismantle at h
  simp only [Action.runs_bind_iff, Action.runs_lift_iff, Action.runs_modify_iff] at h
  obtain ⟨_, _, changed, between, -, hfree, _, _, _, _, -, ⟨-, rfl⟩, _, _, _, _, -, ⟨-, rfl⟩, _, _, _, _, -, ⟨-, rfl⟩,
    _, _, _, _, -, ⟨-, rfl⟩, -, rfl⟩ := h
  obtain ⟨_, hfree, -⟩ := CommandBuffer.runs_drain hfree
  refine .trans (.of_loses (CommandBuffer.loses_freeAll hfree)) ?_
  exact .trans (.removeQueues between changed.families) (.remove _ owner)

/-- Destroying a device takes records away. -/
theorem Device.steady_destroy {handle : Option Handle} {explicit : Option CallbackSet} {result : Unit}
    (hs : bridge.Sound) (h : (destroy handle explicit).Runs bridge trace result after) : bridge.Steady after := by
  unfold destroy at h
  cases handle with
  | none =>
    obtain ⟨-, -, rfl⟩ := Action.runs_pure_iff.1 h
    exact Bridge.steady_of_blocks rfl
  | some handle =>
    dsimp only at h
    rw [Action.runs_bind_iff] at h
    obtain ⟨resolving, last, resolved, between, rfl, hr, h⟩ := h
    obtain ⟨rfl, ⟨owner, device, -, -, rfl, rfl⟩ | ⟨-, rfl, -⟩⟩ := hs.runs_resolve hr rfl
    · dsimp only at h
      rw [Action.runs_bind_iff] at h
      obtain ⟨_, last, _, between, -, hd, h⟩ := h
      obtain ⟨-, rfl⟩ := Action.runs_lift_iff.1 hd
      have hdismantle : ∃ rest, (dismantle owner device).Runs bridge rest result after := by
        split at h
        case isTrue => exact ⟨last, h⟩
        case isFalse =>
          rw [Action.runs_bind_iff] at h
          obtain ⟨_, rest, _, between, -, hn, h⟩ := h
          obtain ⟨-, rfl⟩ := Action.runs_lift_iff.1 hn
          exact ⟨rest, h⟩
      obtain ⟨rest, hdismantle⟩ := hdismantle
      exact (sheds_dismantle hdismantle).steady
    · obtain ⟨-, -, rfl⟩ := Action.runs_pure_iff.1 h
      exact Bridge.steady_of_blocks rfl

/-! ## The step -/

/-- How there comes to be the record of an instance after an event: it was there, it is new, or the instance got its
physical devices. -/
inductive Instance.Became (bridge after : Bridge) (address : Address) (record : Instance) : Prop
  | kept : bridge.blocks[address]? = some (.inst record) → Became bridge after address record
  | new : bridge.blocks[address]? = none → record.physicalDevices = none → Became bridge after address record
  | listed {old : Instance} {array : PhysicalDeviceArray} {records : Array PhysicalDevice} :
      bridge.blocks[address]? = some (.inst old) → old.physicalDevices = none →
        record = { old with physicalDevices := some array } →
          after.blocks[array.block]? = some (.physicalDevices records) → records.size = array.count.toNat →
            Became bridge after address record

/-- How there comes to be the record of a device after an event: it was there with other children, or it is new. -/
inductive Device.Became (bridge after : Bridge) (address : Address) (record : Device) : Prop
  | kept {old : Device} : bridge.blocks[address]? = some (.device old) → old.SameDevice record →
      Became bridge after address record
  | new : bridge.blocks[address]? = none →
      (∀ family ∈ record.families, ∀ block ∈ family.queues, ∃ records,
        after.blocks[block]? = some (.queues records) ∧ records.size = family.count.toNat) →
          Became bridge after address record

/-- All that an event can do to records. -/
structure Bridge.Transition (bridge after : Bridge) : Prop where
  steady : bridge.Steady after
  instances : ∀ (address : Address) (record : Instance), after.blocks[address]? = some (.inst record) →
    record.Became bridge after address
  devices : ∀ (address : Address) (record : Device), after.blocks[address]? = some (.device record) →
    record.Became bridge after address

omit [Reckoning] in
theorem Device.SameDevice.refl (device : Device) : device.SameDevice device := ⟨rfl, rfl, rfl, rfl, rfl⟩

section Outcome

variable {event : Event} {places : List Address}

/-- An event leaves what belongs to owners as it is, or takes it away. -/
theorem Outcome.steady (ho : Outcome bridge owner event after) (hs : bridge.Sound) (hf : event.trace.Fresh places)
    (hoccupies : bridge.owned.Occupies places) (hp : event.Permitted bridge) (h : event.Leads bridge after) :
    bridge.Steady after := by
  have sheds : bridge.Sheds bridge := fun _ => .inl rfl
  have owned {block : Block} (hb : bridge.blocks[owner]? = some block) (hblock : block.IsOwner) (found : Block)
      (hfound : bridge.blocks[owner]? = some found) : found.IsOwner := by
    obtain rfl := Option.some.inj (hb.symm.trans hfound)
    exact hblock
  have vacant (hb : bridge.blocks[owner]? = none) (found : Block) (hfound : bridge.blocks[owner]? = some found) :
      found.IsOwner := by
    rw [hb] at hfound
    cases hfound
  cases ho with
  | kept hb _ _ _ => exact Bridge.steady_of_blocks hb
  | createdInstance hb ha _ =>
    intro address part
    rw [ha]
    exact sheds.steady_put (vacant hb) _ address part
  -- Here and below the outcome is silent about the other records, and the run itself tells of them.
  | populated hb _ _ =>
    obtain ⟨address, record, array, handles, listed, -, hfound, -, -, -, rfl, he⟩ | ⟨rfl, -⟩ :=
      Instance.runs_enumerate hs h
    · have hvacant : bridge.blocks[array.block]? = none := hs.fresh hoccupies hf he (Multiset.mem_singleton_self _)
      intro place part hpart hp
      have hne : place ≠ address := by
        rintro rfl
        obtain rfl := Option.some.inj (hfound.symm.trans hpart)
        exact hp
      have hne' : place ≠ array.block := by
        rintro rfl
        rw [hvacant] at hpart
        cases hpart
      rw [Instance.populated, Bridge.blocks_put hne, Bridge.blocks_put hne']
      exact .inl hpart
    · exact Bridge.steady_of_blocks rfl
  | @destroyedInstance explicit trace _ _ _ _ _ =>
    have h : (Instance.destroy (some owner.toHandle) explicit).Runs bridge trace () after := h
    obtain ⟨address, record, -, -, rfl, -⟩ | ⟨rfl, -, -⟩ := Instance.runs_destroy hs h
    · exact Bridge.Sheds.steady (.trans (.remove? bridge _) (.remove _ address))
    · exact Bridge.steady_of_blocks rfl
  | createdDevice hn hm _ => exact fun place part hpart _ => .inl (hm.left ▸ hn.kept _ hpart)
  | @destroyedDevice explicit trace _ _ _ =>
    have h : (Device.destroy (some owner.toHandle) explicit).Runs bridge trace () after := h
    exact Device.steady_destroy hs h
  | createdPool hm _ => exact hm.left ▸ sheds.steady_put (owned hm.found trivial) _
  | @destroyedPool explicit trace _ _ pool _ _ _ =>
    have h : (CommandPool.destroy (some owner.toHandle) pool explicit).Runs bridge trace () after := h
    exact CommandPool.steady_destroy hs h
  | allocated hr _ _ =>
    obtain ⟨rfl, -, -, -⟩ | ⟨place, device, changed, wanted, new, hr, -, -, -, -, hkept⟩ :=
      CommandBuffer.runs_allocate hs hoccupies hf (hp.toBounded.room rfl) h
    · exact Bridge.steady_of_blocks rfl
    · intro address part hpart hp
      refine .inl (hkept address ?_ part hpart)
      rintro rfl
      obtain rfl := Option.some.inj (hr.found.symm.trans hpart)
      exact hp
  | freed hr _ _ =>
    obtain ⟨rfl, -, -, -⟩ | ⟨place, device, changed, addresses, hr, -, -, -, between, hloses, rfl⟩ :=
      CommandBuffer.runs_freeList hs hoccupies hf (hp.entries rfl) h
    · exact Bridge.steady_of_blocks rfl
    · refine (Bridge.Sheds.of_loses hloses).steady_put (fun block hblock => ?_) _
      obtain rfl := Option.some.inj (hr.found.symm.trans hblock)
      trivial
  | createdFence hm _ => exact hm.left ▸ sheds.steady_put (owned hm.found trivial) _
  | createdPlainFence _ _ => exact Bridge.steady_of_blocks rfl
  | destroyedFence _ hd => exact hd.left ▸ sheds.steady_put (owned hd.found trivial) _

/-- The record of an instance that an event is about. -/
theorem Outcome.became_inst {record : Instance} (ho : Outcome bridge owner event after) (hs : bridge.Sound)
    (hf : event.trace.Fresh places) (hoccupies : bridge.owned.Occupies places) (h : event.Leads bridge after)
    (ha : after.blocks[owner]? = some (.inst record)) : record.Became bridge after owner := by
  have device {changed : Device} (hd : after.blocks[owner]? = some (.device changed)) :
      record.Became bridge after owner := by
    rw [hd] at ha
    cases ha
  cases ho with
  | kept hb _ _ _ => exact .kept (hb ▸ ha)
  | createdInstance hb hleft _ =>
    rw [hleft, Bridge.blocks_put_self] at ha
    obtain rfl : _ = record := by simpa using ha
    exact .new hb rfl
  | populated hb hleft _ =>
    obtain ⟨address, found, array, handles, listed, hh, hfound, hnone, -, hlength, rfl, he⟩ | ⟨rfl, -⟩ :=
      Instance.runs_enumerate hs h
    · obtain rfl := toHandle_inj.1 (Option.some.inj hh)
      rw [Instance.populated, Bridge.blocks_put_self] at ha
      obtain rfl : _ = record := by simpa using ha
      have hne : array.block ≠ owner := by
        rintro heq
        have := hs.fresh hoccupies hf he (Multiset.mem_singleton_self _)
        rw [heq, hfound] at this
        cases this
      have hsize : (Instance.physicalDeviceRecords owner handles).size = handles.length := by
        simp [Instance.physicalDeviceRecords]
      refine .listed hfound hnone rfl ?_ (hsize.trans hlength)
      rw [Instance.populated, Bridge.blocks_put hne, Bridge.blocks_put_self]
    · exact .kept ha
  | destroyedInstance _ hleft _ =>
    rw [hleft] at ha
    cases ha
  | createdDevice hn hm _ => exact device (hm.left ▸ hn.found _)
  | destroyedDevice hd =>
    rw [hd.gone] at ha
    cases ha
  | createdPool hm _ => exact device (hm.left ▸ Bridge.blocks_put_self)
  | destroyedPool _ hd => exact device hd.left
  | allocated hr _ _ => exact device hr.left
  | freed hr _ _ => exact device hr.left
  | createdFence hm _ => exact device (hm.left ▸ Bridge.blocks_put_self)
  | createdPlainFence hb _ => exact device hb
  | destroyedFence _ hd => exact device (hd.left ▸ Bridge.blocks_put_self)

/-- The record of a device that an event is about. -/
theorem Outcome.became_device {record : Device} (ho : Outcome bridge owner event after)
    (ha : after.blocks[owner]? = some (.device record)) : record.Became bridge after owner := by
  have same {old changed : Device} (hb : bridge.blocks[owner]? = some (.device old))
      (hleft : after.blocks[owner]? = some (.device changed)) (h : old.SameDevice changed) :
      record.Became bridge after owner := by
    obtain rfl : changed = record := by simpa using hleft.symm.trans ha
    exact .kept hb h
  have put {old changed : Device} (hb : bridge.blocks[owner]? = some (.device old))
      (hleft : after = bridge.put owner (.device changed)) (h : old.SameDevice changed) :
      record.Became bridge after owner :=
    same hb (hleft ▸ Bridge.blocks_put_self) h
  cases ho with
  | kept hb _ _ _ => exact .kept (hb ▸ ha) (.refl record)
  | createdInstance _ hleft _ =>
    rw [hleft, Bridge.blocks_put_self] at ha
    cases ha
  | populated _ hleft _ =>
    rw [hleft] at ha
    cases ha
  | destroyedInstance _ hleft _ =>
    rw [hleft] at ha
    cases ha
  | @createdDevice _ _ _ _ _ _ _ _ _ _ built _ hn hm _ =>
    rw [hm.left, hn.found] at ha
    obtain rfl : _ = record := by simpa using ha
    refine .new hn.place fun family hfamily block hblock => ?_
    obtain ⟨entry, hentry, rfl⟩ := List.mem_map.1 hfamily
    obtain ⟨request, -, hfits⟩ := hm.arrays.request hentry
    refine ⟨entry.queues, ?_, by rw [hfits.size, hfits.count]⟩
    rw [hm.left]
    refine Bridge.blocks_putQueues hn.nodup (List.mem_filterMap.2 ⟨entry, hentry, ?_⟩)
    rw [Option.mem_def.1 hblock, Option.map_some]
  | destroyedDevice hd =>
    rw [hd.gone] at ha
    cases ha
  | createdPool hm _ => exact put hm.found hm.left ⟨rfl, rfl, rfl, rfl, rfl⟩
  | destroyedPool _ hd => exact same hd.found hd.left hd.same
  | allocated hr _ _ => exact same hr.found hr.left hr.regroups.same
  | freed hr _ _ => exact same hr.found hr.left hr.regroups.same
  | createdFence hm _ => exact put hm.found hm.left ⟨rfl, rfl, rfl, rfl, rfl⟩
  | createdPlainFence hb _ => exact same hb hb (.refl _)
  | destroyedFence _ hd => exact put hd.found hd.left ⟨rfl, rfl, rfl, rfl, rfl⟩

/-- An event leaves the record of a device, unless it destroys the device. -/
theorem Outcome.leaves_device {place : Address} {device : Device} {natives : Trace} (ho : Outcome bridge place event after)
    (hk : bridge.Keeps place event.trace natives after) (hb : bridge.blocks[owner]? = some (.device device))
    (hn : ∀ explicit, event.call ≠ .destroyDevice (some owner.toHandle) explicit) :
    ∃ changed : Device, after.blocks[owner]? = some (.device changed) := by
  by_cases he : owner = place
  case neg => exact ⟨device, (hk.others owner (.device device) he trivial).2 hb⟩
  subst he
  have noInst {record : Instance} : bridge.blocks[owner]? ≠ some (.inst record) := by
    rw [hb]
    exact nofun
  cases ho with
  | kept hblocks _ _ _ => exact ⟨device, hblocks ▸ hb⟩
  | createdInstance hnone _ _ =>
    rw [hb] at hnone
    cases hnone
  | populated hinst _ _ => exact (noInst hinst).elim
  | destroyedInstance hinst _ _ => exact (noInst hinst).elim
  | createdDevice hapart _ _ =>
    rw [hapart.place] at hb
    cases hb
  | destroyedDevice _ => exact (hn _ rfl).elim
  | createdPool hm _ => exact ⟨_, hm.left ▸ Bridge.blocks_put_self⟩
  | destroyedPool _ hd => exact ⟨_, hd.left⟩
  | allocated hr _ _ => exact ⟨_, hr.left⟩
  | freed hr _ _ => exact ⟨_, hr.left⟩
  | createdFence hm _ => exact ⟨_, hm.left ▸ Bridge.blocks_put_self⟩
  | createdPlainFence _ _ => exact ⟨_, hb⟩
  | destroyedFence _ hd => exact ⟨_, hd.left ▸ Bridge.blocks_put_self⟩

omit [Reckoning] in
/-- A device that is there before and after an event is the same device. -/
theorem Bridge.Transition.same_device {device changed : Device} (ht : bridge.Transition after)
    (hb : bridge.blocks[owner]? = some (.device device)) (ha : after.blocks[owner]? = some (.device changed)) :
    device.SameDevice changed := by
  cases ht.devices owner changed ha with
  | kept hold hsame =>
    obtain rfl := by simpa using hold.symm.trans hb
    exact hsame
  | new hvacant _ =>
    rw [hvacant] at hb
    cases hb

end Outcome

section Step

variable {history : List Event} {event : Event} {natives : Trace}

/-- An outcome is a transition: the other owners stay as they are. -/
theorem Invariant.transition (h : Invariant history bridge) (ho : Outcome bridge owner event after)
    (hk : bridge.Keeps owner event.trace natives after) (hp : event.Permitted bridge)
    (hf : event.trace.Fresh (Trace.held [] (traceOf history))) (hl : event.Leads bridge after) :
    bridge.Transition after where
  steady := ho.steady h.sound hf h.occupies hp hl
  instances address record ha := by
    by_cases he : address = owner
    · subst he
      exact ho.became_inst h.sound hf h.occupies hl ha
    · exact .kept ((hk.others address (.inst record) he trivial).1 ha)
  devices address record ha := by
    by_cases he : address = owner
    · subst he
      exact ho.became_device ha
    · exact .kept ((hk.others address (.device record) he trivial).1 ha) (.refl record)

end Step

/-! ## The length of arrays -/

/-- The arrays of instances and devices are as long as their owners say. -/
structure Bridge.Full (bridge : Bridge) : Prop where
  physicalDevices : ∀ (owner : Address) (record : Instance) (array : PhysicalDeviceArray) (records : Array PhysicalDevice),
    bridge.blocks[owner]? = some (.inst record) → record.physicalDevices = some array →
      bridge.blocks[array.block]? = some (.physicalDevices records) → records.size = array.count.toNat
  queues : ∀ (owner : Address) (device : Device) (family : QueueFamily) (block : Address) (records : Array Queue),
    bridge.blocks[owner]? = some (.device device) → family ∈ device.families → family.queues = some block →
      bridge.blocks[block]? = some (.queues records) → records.size = family.count.toNat

namespace Bridge.Full

omit [Reckoning] in
theorem initial : Full .initial where
  physicalDevices owner _ _ _ hb := by
    rw [show Bridge.initial.blocks[owner]? = none from Std.ExtTreeMap.getElem?_empty] at hb
    cases hb
  queues owner _ _ _ _ hb := by
    rw [show Bridge.initial.blocks[owner]? = none from Std.ExtTreeMap.getElem?_empty] at hb
    cases hb

/-- A transition leaves all arrays as long as they were, and makes new ones as long as they ought to be. -/
theorem step (h : bridge.Full) (hs : bridge.Sound) (ht : bridge.Transition after) : after.Full where
  physicalDevices owner record array records hb harray hrecords := by
    cases ht.instances owner record hb with
    | kept hold =>
      obtain ⟨found, hfound, -⟩ := Instance.Sound.listed (hs owner _ hold) array harray
      obtain rfl : records = found := by simpa using ht.steady.eq hfound trivial hrecords
      exact h.physicalDevices owner record array records hold harray hfound
    | new _ hnone =>
      rw [hnone] at harray
      cases harray
    | listed _ _ hrecord hfound hsize =>
      subst hrecord
      obtain rfl := Option.some.inj harray
      obtain rfl : records = _ := by simpa using hrecords.symm.trans hfound
      exact hsize
  queues owner device family block records hb hfamily hblock hrecords := by
    cases ht.devices owner device hb with
    | kept hold hsame =>
      rw [hsame.families] at hfamily
      obtain ⟨found, hfound, -⟩ := Device.Sound.queueBlocks (hs owner _ hold) family hfamily block hblock
      obtain rfl : records = found := by simpa using ht.steady.eq hfound trivial hrecords
      exact h.queues owner _ family block records hold hfamily hblock hfound
    | new _ hnew =>
      obtain ⟨found, hfound, hsize⟩ := hnew family hfamily block hblock
      obtain rfl : records = found := by simpa using hrecords.symm.trans hfound
      exact hsize

end Bridge.Full

end VulkanBridge
