import VulkanBridge.Proofs.Listing
import VulkanBridge.Proofs.Refusals
/-!
# The handles of the application

`givenAfter` reads off a use which handles the application was given and may still use. Each of them stands for a record
(`GivenHandle.Stands`), which no event and no word of the loader exchanges for another. So it is accepted as a handle of
its kind, and refused where another kind is wanted (`handles_told_apart`).
-/

namespace VulkanBridge

/-! ## Handles that are given out -/

/-- A handle that the application was given, with its kind and the instance or device that it was given for. -/
structure GivenHandle where
  kind : ObjectKind
  owner : Handle
  handle : Handle
  deriving DecidableEq

/-- The handles that an event gives to the application. -/
def Event.gives : Event → List GivenHandle
  | ⟨.createInstance .., _, (_, some handle)⟩ => [⟨.inst, handle, handle⟩]
  | ⟨.enumeratePhysicalDevices (some owner) _ _, _, listing⟩ => (Listing.handles listing).map (⟨.physicalDevice, owner, ·⟩)
  | ⟨.createDevice .., _, (_, some handle)⟩ => [⟨.device, handle, handle⟩]
  | ⟨.getQueue (some owner) _ _ _, _, some (some handle)⟩ => [⟨.queue, owner, handle⟩]
  | ⟨.allocateCommandBuffers (some owner) _, _, (_, some stored)⟩ =>
    (stored.filterMap id).map (⟨.commandBuffer, owner, ·⟩)
  | _ => []

/-- The handle may be used as long as the object lives. Physical devices live with their instance and queues with their
device. -/
def Object.sustains (given : GivenHandle) : Object → Bool
  | inst found .. => found = given.owner && (given.kind = .physicalDevice || given.kind = .inst && given.handle = found)
  | device found .. => found = given.owner && (given.kind = .queue || given.kind = .device && given.handle = found)
  | commandBuffer found _ handle => found = given.owner && given.kind = .commandBuffer && given.handle = handle
  | _ => false

/-- The handles that were given out and may be used after a use. -/
def givenAfter : List Event → List GivenHandle
  | [] => []
  | event :: history =>
    (event.gives ++ givenAfter history).filter fun given => (liveAfter (event :: history)).any (·.sustains given)

namespace ObjectKind

/-- The native handle in a record. -/
def native : (kind : ObjectKind) → kind.Record → NativeHandle
  | inst, record => Instance.native record
  | physicalDevice, record => PhysicalDevice.native record
  | device, record => Device.native record
  | queue, record => Queue.native record
  | commandBuffer, record => CommandBuffer.native record

/-- The instance or device that a record with this handle belongs to. -/
def owner : (kind : ObjectKind) → Handle → kind.Record → Handle
  | inst, handle, _ | device, handle, _ => handle
  | physicalDevice, _, record => (PhysicalDevice.inst record).toHandle
  | queue, _, record => (Queue.device record).toHandle
  | commandBuffer, _, record => (CommandBuffer.device record).toHandle

end ObjectKind

/-- There is a record for the handle, where its owner has it. -/
inductive GivenHandle.Stands (bridge : Bridge) : GivenHandle → Prop
  | inst {owner : Address} {record : Instance} : bridge.blocks[owner]? = some (.inst record) →
      Stands bridge ⟨.inst, owner.toHandle, owner.toHandle⟩
  | physicalDevice {owner : Address} {record : Instance} {array : PhysicalDeviceArray} {handle : Handle} :
      bridge.blocks[owner]? = some (.inst record) → record.physicalDevices = some array → handle.block = array.block →
        handle.slot < array.count.toNat → Stands bridge ⟨.physicalDevice, owner.toHandle, handle⟩
  | device {owner : Address} {record : Device} : bridge.blocks[owner]? = some (.device record) →
      Stands bridge ⟨.device, owner.toHandle, owner.toHandle⟩
  | queue {owner : Address} {record : Device} {family : QueueFamily} {handle : Handle} :
      bridge.blocks[owner]? = some (.device record) → family ∈ record.families → family.queues = some handle.block →
        handle.slot < family.count.toNat → Stands bridge ⟨.queue, owner.toHandle, handle⟩
  | commandBuffer {owner : Address} {record : Device} {pool : NativeHandle} {place : Address} :
      bridge.blocks[owner]? = some (.device record) → (pool, place) ∈ record.commandBuffers →
        Stands bridge ⟨.commandBuffer, owner.toHandle, place.toHandle⟩

/-- The handle is accepted without a word as one of its kind, with a record that belongs to its owner, and refused with
one as a handle of any other kind. -/
structure GivenHandle.Admitted (bridge : Bridge) (given : GivenHandle) : Prop where
  accepted : ∃ record, given.kind.owner given.handle record = given.owner ∧
    (resolve given.kind (some given.handle)).Tells bridge [] (.ok (given.handle, record))
  refused : ∀ kind, kind ≠ given.kind → (resolve kind (some given.handle)).Tells bridge
    [.wrongHandle given.handle kind] (.error (.invalidHandle kind.name))

section Stands

variable {bridge after : Bridge} {given : GivenHandle} [Reckoning]

/-- A handle that stands has a record of its kind, with the tag of that kind, that belongs to its owner. -/
theorem GivenHandle.Stands.record (h : given.Stands bridge) (hs : bridge.Sound) (hf : bridge.Full) :
    ∃ record, bridge.record? given.kind given.handle = some record ∧
      (bridge.header? given.handle).map (·.tag) = some given.kind.tag ∧
        given.kind.owner given.handle record = given.owner := by
  cases h with
  | @inst owner record hb =>
    have ht : record.header.tag = _ := (hs owner _ hb).tag
    exact ⟨record, Bridge.record?_inst_iff.2 ⟨rfl, hb⟩,
      by simp [Bridge.header?, Address.toHandle, hb, Block.header?, ht], rfl⟩
  | @physicalDevice owner record array handle hb harray hblock hslot =>
    obtain ⟨records, hrecords, hall⟩ := Instance.Sound.listed (hs owner _ hb) array harray
    have hsize := hf.physicalDevices owner record array records hb harray hrecords
    have hlt : handle.slot < records.size := hsize ▸ hslot
    obtain ⟨ht, hinst⟩ := hall records[handle.slot] (Array.getElem_mem hlt)
    refine ⟨records[handle.slot], ?_, ?_, congrArg Address.toHandle hinst⟩
    · simp [Bridge.record?, hblock, hrecords, Block.record?]
    · simp [Bridge.header?, hblock, hrecords, Block.header?, ht, hlt]
  | @device owner record hb =>
    have ht : record.header.tag = _ := (hs owner _ hb).tag
    exact ⟨record, Bridge.record?_device_iff.2 ⟨rfl, hb⟩,
      by simp [Bridge.header?, Address.toHandle, hb, Block.header?, ht], rfl⟩
  | @queue owner record family handle hb hfamily hblock hslot =>
    obtain ⟨records, hrecords, hall⟩ := Device.Sound.queueBlocks (hs owner _ hb) family hfamily handle.block hblock
    have hsize := hf.queues owner record family handle.block records hb hfamily hblock hrecords
    have hlt : handle.slot < records.size := hsize ▸ hslot
    obtain ⟨ht, hdevice⟩ := hall records[handle.slot] (Array.getElem_mem hlt)
    refine ⟨records[handle.slot], ?_, ?_, congrArg Address.toHandle hdevice⟩
    · simp [Bridge.record?, hrecords, Block.record?]
    · simp [Bridge.header?, hrecords, Block.header?, ht, hlt]
  | @commandBuffer owner record pool place hb hm =>
    obtain ⟨found, hfound, ht, -, hdevice⟩ := Device.Sound.commandBuffers (hs owner _ hb) pool place hm
    exact ⟨found, Bridge.record?_commandBuffer_iff.2 ⟨rfl, hfound⟩,
      by simp [Bridge.header?, Address.toHandle, hfound, Block.header?, ht], congrArg Address.toHandle hdevice⟩

end Stands

/-! ## What becomes of the records -/

section Records

variable {bridge after : Bridge} {given : GivenHandle}

/-- Arrays of the same size whose items agree under a function. -/
theorem map_getElem?_congr {α β : Type} {f : α → β} {items others : Array α} (hs : others.size = items.size)
    (h : ∀ (i : Nat) (item other : α), items[i]? = some item → others[i]? = some other → f other = f item) (i : Nat) :
    others[i]?.map f = items[i]?.map f := by
  by_cases hi : i < items.size
  · have hi' : i < others.size := hs ▸ hi
    rw [Array.getElem?_eq_getElem hi, Array.getElem?_eq_getElem hi']
    exact congrArg some (h i _ _ (Array.getElem?_eq_getElem hi) (Array.getElem?_eq_getElem hi'))
  · rw [Array.getElem?_eq_none (Nat.le_of_not_lt hi), Array.getElem?_eq_none (hs ▸ Nat.le_of_not_lt hi)]

theorem Block.Like.native {block other : Block} (h : block.Like other) (kind : ObjectKind) (slot : Nat) :
    (other.record? kind slot).map kind.native = (block.record? kind slot).map kind.native := by
  cases block <;> cases other
  case inst.inst | device.device | commandBuffer.commandBuffer =>
    rw [h.1]
    cases kind <;> cases slot <;> rfl
  case physicalDevices.physicalDevices records others =>
    cases kind with
    | physicalDevice =>
      refine map_getElem?_congr h.1 (fun i record other hr ho => ?_) slot
      rw [(h.2 i record other hr ho).1]
      rfl
    | _ => rfl
  case queues.queues records others =>
    cases kind with
    | queue =>
      refine map_getElem?_congr h.1 (fun i record other hr ho => ?_) slot
      rw [(h.2 i record other hr ho).1]
      rfl
    | _ => rfl
  case foreign.foreign => cases kind <;> cases slot <;> rfl
  all_goals exact h.elim

theorem GivenHandle.Stands.like (h : given.Stands bridge) (hl : bridge.Like after) : given.Stands after := by
  cases h with
  | inst hb =>
    obtain ⟨header, ho⟩ := hl.inst hb
    exact .inst ho
  | physicalDevice hb harray hblock hslot =>
    obtain ⟨header, ho⟩ := hl.inst hb
    exact .physicalDevice ho harray hblock hslot
  | device hb =>
    obtain ⟨header, ho⟩ := hl.device hb
    exact .device ho
  | queue hb hfamily hblock hslot =>
    obtain ⟨header, ho⟩ := hl.device hb
    exact .queue ho hfamily hblock hslot
  | commandBuffer hb hm =>
    obtain ⟨header, ho⟩ := hl.device hb
    exact .commandBuffer ho hm

/-- A record that is there before and after an event has the same native handle. -/
theorem Bridge.Transition.native {kind : ObjectKind} {handle : Handle} {old new : kind.Record}
    (h : bridge.Transition after) (hb : bridge.record? kind handle = some old)
    (ha : after.record? kind handle = some new) : kind.native new = kind.native old := by
  obtain ⟨block, hblock, hold⟩ := Option.bind_eq_some_iff.1 hb
  obtain ⟨other, hother, hnew⟩ := Option.bind_eq_some_iff.1 ha
  -- A record that is not an owner's is a part, and parts do not change.
  have part (hp : block.IsPart) : kind.native new = kind.native old := by
    rw [h.steady.eq hblock hp hother, hold] at hnew
    rw [Option.some.inj hnew]
  cases kind with
  | inst =>
    obtain ⟨-, hb⟩ := Bridge.record?_inst_iff.1 hb
    obtain ⟨-, ha⟩ := Bridge.record?_inst_iff.1 ha
    cases h.instances _ _ ha with
    | kept hkept =>
      obtain rfl : new = old := by simpa using hkept.symm.trans hb
      rfl
    | new hvacant _ =>
      rw [hvacant] at hb
      cases hb
    | listed hlisted _ hrecord _ _ =>
      obtain rfl := by simpa using hlisted.symm.trans hb
      rw [hrecord]
      rfl
  | device =>
    obtain ⟨-, hb⟩ := Bridge.record?_device_iff.1 hb
    obtain ⟨-, ha⟩ := Bridge.record?_device_iff.1 ha
    cases h.devices _ _ ha with
    | kept hkept hsame =>
      obtain rfl := by simpa using hkept.symm.trans hb
      exact hsame.native
    | new hvacant _ =>
      rw [hvacant] at hb
      cases hb
  | physicalDevice | queue | commandBuffer =>
    refine part ?_
    cases block <;> trivial

end Records

/-! ## The step -/

section Step

variable {bridge after : Bridge} {given : GivenHandle} {live : List Object} {event : Event}

/-- A handle that lives with an object stands for a record, or is one of the handles that live with an owner's. -/
theorem Agrees.stands {object : Object} (h : Agrees bridge live) (hm : object ∈ live) (hs : object.sustains given) :
    given.Stands bridge ∨
      (∃ (owner : Address) (record : Instance) (handle : Handle), bridge.blocks[owner]? = some (.inst record) ∧
        given = ⟨.physicalDevice, owner.toHandle, handle⟩) ∨
      ∃ (owner : Address) (record : Device) (handle : Handle), bridge.blocks[owner]? = some (.device record) ∧
        given = ⟨.queue, owner.toHandle, handle⟩ := by
  obtain ⟨kind, owner, handle⟩ := given
  obtain ⟨address, howner⟩ := h.owners object hm
  obtain ⟨record, hr⟩ := h.rooted object hm
  rw [howner] at hr
  cases object with
  | inst found explicit listed =>
    obtain ⟨-, hb⟩ := Bridge.record?_inst_iff.1 hr
    obtain rfl : found = address.toHandle := howner
    simp only [Object.sustains, Bool.and_eq_true, Bool.or_eq_true, decide_eq_true_eq] at hs
    obtain ⟨rfl, rfl | ⟨rfl, rfl⟩⟩ := hs
    · exact .inr (.inl ⟨address, record, handle, hb, rfl⟩)
    · exact .inl (.inst hb)
  | device found explicit queues =>
    obtain ⟨-, hb⟩ := Bridge.record?_device_iff.1 hr
    obtain rfl : found = address.toHandle := howner
    simp only [Object.sustains, Bool.and_eq_true, Bool.or_eq_true, decide_eq_true_eq] at hs
    obtain ⟨rfl, rfl | ⟨rfl, rfl⟩⟩ := hs
    · exact .inr (.inr ⟨address, record, handle, hb, rfl⟩)
    · exact .inl (.device hb)
  | commandBuffer found pool place =>
    obtain ⟨-, hb⟩ := Bridge.record?_device_iff.1 hr
    obtain rfl : found = address.toHandle := howner
    simp only [Object.sustains, Bool.and_eq_true, decide_eq_true_eq] at hs
    obtain ⟨⟨rfl, rfl⟩, rfl⟩ := hs
    obtain ⟨place, rfl, hplace⟩ := h.mem_commandBuffers hb hm
    exact .inl (.commandBuffer hb hplace)
  | pool _ _ _ | fence _ _ _ => cases hs

/-- A handle stands as long as its object lives. -/
theorem GivenHandle.Stands.step (h : given.Stands bridge) (ht : bridge.Transition after) (ha : Agrees after live)
    {object : Object} (hm : object ∈ live) (hs : object.sustains given) : given.Stands after := by
  obtain hafter | ⟨owner, record, handle, hb, rfl⟩ | ⟨owner, record, handle, hb, rfl⟩ := ha.stands hm hs
  · exact hafter
  · cases h with
    | physicalDevice hold harray hblock hslot =>
      cases ht.instances owner record hb with
      | kept hkept =>
        obtain rfl := by simpa using hkept.symm.trans hold
        exact .physicalDevice hb harray hblock hslot
      | new hvacant _ =>
        rw [hvacant] at hold
        cases hold
      | listed hlisted hnone _ _ _ =>
        obtain rfl := by simpa using hlisted.symm.trans hold
        rw [hnone] at harray
        cases harray
  · cases h with
    | queue hold hfamily hblock hslot =>
      cases ht.devices owner record hb with
      | kept hkept hsame =>
        obtain rfl := by simpa using hkept.symm.trans hold
        exact .queue hb (hsame.families ▸ hfamily) hblock hslot
      | new hvacant _ =>
        rw [hvacant] at hold
        cases hold

theorem Event.of_gives_physicalDevice {owner handle : Handle} (h : ⟨.physicalDevice, owner, handle⟩ ∈ event.gives) :
    ∃ count intoArray trace, ∃ listing : Listing, handle ∈ listing.handles ∧
      event = ⟨.enumeratePhysicalDevices (some owner) count intoArray, trace, listing⟩ := by
  unfold gives at h
  split at h
  case h_2 owner count intoArray trace listing =>
    obtain ⟨found, hm, he⟩ := List.mem_map.1 h
    cases he
    exact ⟨count, intoArray, trace, listing, hm, rfl⟩
  all_goals simp at h

theorem Event.of_gives_queue {owner handle : Handle} (h : ⟨.queue, owner, handle⟩ ∈ event.gives) :
    ∃ family index output trace, event = ⟨.getQueue (some owner) family index output, trace, some (some handle)⟩ := by
  unfold gives at h
  split at h
  case h_4 owner family index output trace found =>
    cases List.mem_singleton.1 h
    exact ⟨family, index, output, trace, rfl⟩
  all_goals simp at h

/-- A queue that is stored is one of the device's. -/
theorem Device.runs_getQueue [Reckoning] {handle : Option Handle} {family index : UInt32} {output : Bool} {queue : Handle}
    {trace : Trace} (hs : bridge.Sound)
    (h : (getQueue handle family index output).Runs bridge trace (some (some queue)) after) :
    ∃ (owner : Address) (device : Device), handle = some owner.toHandle ∧ after.blocks[owner]? = some (.device device) ∧
      device.queue? family index = some queue := by
  unfold getQueue at h
  split at h
  case isTrue =>
    obtain ⟨-, he, -⟩ := Action.runs_pure_iff.1 h
    cases he
  case isFalse =>
    rw [Action.runs_bind_iff] at h
    obtain ⟨resolving, last, resolved, between, rfl, hr, h⟩ := h
    obtain ⟨rfl, ⟨owner, device, rfl, hb, rfl, rfl⟩ | ⟨-, rfl, -⟩⟩ := hs.runs_resolve hr rfl
    · dsimp only at h
      split at h
      case h_1 found hfound =>
        obtain ⟨rfl, he, rfl⟩ := Action.runs_pure_iff.1 h
        cases he
        exact ⟨owner, device, rfl, hb, hfound⟩
      case h_2 =>
        rw [Action.runs_bind_iff] at h
        obtain ⟨_, _, _, _, -, -, h⟩ := h
        obtain ⟨-, he, -⟩ := Action.runs_pure_iff.1 h
        cases he
    · obtain ⟨-, he, -⟩ := Action.runs_pure_iff.1 h
      cases he

theorem Device.of_queue? {device : Device} {family index : UInt32} {queue : Handle}
    (h : device.queue? family index = some queue) :
    ∃ found ∈ device.families, found.queues = some queue.block ∧ queue.slot < found.count.toNat := by
  unfold queue? at h
  obtain ⟨found, hfound, h⟩ := Option.bind_eq_some_iff.1 h
  split at h
  case isTrue hlt =>
    obtain ⟨block, hblock, rfl⟩ := Option.map_eq_some_iff.1 h
    exact ⟨found, List.mem_of_find?_eq_some hfound, hblock, UInt32.lt_iff_toNat_lt.1 hlt⟩
  case isFalse => cases h

/-- The handles in a report are those of records. -/
theorem Instance.of_mem_report {capacity : UInt32} {intoArray : Bool} {array : Option PhysicalDeviceArray} {handle : Handle}
    (h : handle ∈ (report capacity intoArray array).handles) :
    ∃ found, array = some found ∧ handle.block = found.block ∧ handle.slot < found.count.toNat := by
  have hcode : (report capacity intoArray array).result = .success ∨ (report capacity intoArray array).result = .incomplete := by
    cases intoArray with
    | false => exact .inl rfl
    | true => exact (ite_eq_or_eq _ _ _).symm
  have hm := ((report_truthful capacity intoArray array).stored hcode).1.subset h
  cases array with
  | none => cases hm
  | some found =>
    obtain ⟨slot, hslot, rfl⟩ := List.mem_map.1 hm
    exact ⟨found, rfl, rfl, List.mem_range.1 hslot⟩

/-- A handle that is given out and lives with an object stands. -/
theorem Event.stands_of_gives [Reckoning] (hs : bridge.Sound) (hl : event.Leads bridge after) (hg : given ∈ event.gives)
    (ha : Agrees after live) {object : Object} (hm : object ∈ live) (ho : object.sustains given) : given.Stands after := by
  obtain hafter | ⟨owner, record, handle, hb, rfl⟩ | ⟨owner, record, handle, hb, rfl⟩ := ha.stands hm ho
  · exact hafter
  · obtain ⟨count, intoArray, trace, listing, hm, rfl⟩ := of_gives_physicalDevice hg
    obtain ⟨place, found, capacity, hh, hfound, rfl, -⟩ | ⟨code, rfl, -⟩ := Instance.runs_enumerate_exactly hs hl
    · obtain rfl := toHandle_inj.1 (Option.some.inj hh)
      obtain ⟨array, harray, hblock, hslot⟩ := Instance.of_mem_report hm
      exact .physicalDevice hfound harray hblock hslot
    · cases hm
  · obtain ⟨family, index, output, trace, rfl⟩ := of_gives_queue hg
    obtain ⟨place, device, hh, hfound, hqueue⟩ := Device.runs_getQueue hs hl
    obtain rfl := toHandle_inj.1 (Option.some.inj hh)
    obtain ⟨found, hfamily, hblock, hslot⟩ := Device.of_queue? hqueue
    exact .queue hfound hfamily hblock hslot

end Step

/-! ## Any use -/

section Use

variable {history : List Event} {bridge : Bridge}

/-- Every handle that was given out and may be used stands for a record. -/
theorem Attains.stands (h : Attains Event.Proper history bridge) : ∀ given ∈ givenAfter history, given.Stands bridge := by
  let _ : Reckoning := ⟨False⟩
  induction h with
  | initial => exact nofun
  | load _ _ _ ih => exact fun given hm => (ih given hm).like (Bridge.Like.load ..)
  | step hbefore ha hl ih =>
    intro given hm
    have hs : Settled _ _ := hbefore.settled_of_proper id
    obtain ⟨owner, natives, ho, hk, ht⟩ := hs.proceeds_of_proper id ha hl
    have hafter := hs.agrees.step ho hk
    obtain ⟨hm, hlive⟩ := List.mem_filter.1 hm
    obtain ⟨object, hobject, hsustains⟩ := List.any_eq_true.1 hlive
    -- The event has stored the handle, or it was given out before and its object still lives.
    obtain hm | hm := List.mem_append.1 hm
    · exact Event.stands_of_gives hs.sound hl hm hafter hobject hsustains
    · exact (ih given hm).step ht hafter hobject hsustains

end Use

/-! ## Handles of every kind -/

namespace Sample

def commandBuffer : Handle := ⟨⟨229376⟩, 0⟩

/-- The sample calls and a look at the queue, so that there are handles of every kind. -/
def handedOut : List Call := .getQueue (some device) 0 0 true :: calls

/-- The state after these calls, once the loader has written into the record of the command buffer. -/
def loaded : Bridge := (session .obliging handedOut).2.load commandBuffer 7

end Sample

end VulkanBridge
