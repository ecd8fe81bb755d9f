import VulkanBridge.Proofs.Handles
import VulkanBridge.Proofs.Tags
/-!
# Physical devices are found once

The first listing that finds physical devices keeps a record of each. One that comes to nothing on the way
(`Instance.Misses`) has given back what it obtained and leaves the instance as it was, so that the next begins anew.

An instance that has its records (`Instance.Shows`) has the same ones for as long as it lives: no event but its own
destruction changes them, and nothing gives their array back. Every later listing reports them without a question to
anyone, and the destruction gives the array back as it was obtained (`populated_once`).
-/

namespace VulkanBridge

namespace Allocator

variable {allocator : Allocator} {element : Layout} {counted : UInt32} {scope : Scope} {trace : Trace}

/-- An array of as many elements as a 32-bit count says is asked for and given back in one exchange each. -/
theorem asks_of_refused {error : CallError} (he : element.Small) (hz : counted ≠ 0)
    (h : (allocator.allocateElements element counted.toUInt64 scope).Runs trace (.error error)) :
    error = .outOfHostMemory ∧ trace = allocator.asks (element.array counted.toUInt64) scope none := by
  obtain ⟨_, hok, -⟩ | ⟨herror, rfl⟩ := asks_of_allocateElements he (toUInt64_ne_zero hz) (toNat_toUInt64_lt counted) h
  · cases hok
  · exact ⟨Except.error.inj herror, rfl⟩

theorem asks_of_obtained {address : Address} (he : element.Small) (hz : counted ≠ 0)
    (h : (allocator.allocateElements element counted.toUInt64 scope).Runs trace (.ok address)) :
    trace = allocator.asks (element.array counted.toUInt64) scope (some address) := by
  obtain ⟨_, hok, rfl⟩ | ⟨herror, -⟩ := asks_of_allocateElements he (toUInt64_ne_zero hz) (toNat_toUInt64_lt counted) h
  · rw [Except.ok.inj hok]
  · cases herror

theorem returns_of_freed {address : Address} {result : Unit} (he : element.Small) (hz : counted ≠ 0)
    (h : (allocator.freeArray element counted.toUInt64 (some address)).Runs trace result) :
    trace = allocator.returns (element.array counted.toUInt64) address :=
  returns_of_freeArray he (toNat_toUInt64_lt counted) (fun _ => toUInt64_ne_zero hz) h

end Allocator

namespace Instance

/-! ## The first listing -/

/-- A discovery that comes to nothing, with the code to report. The native driver does not say how many devices it has, or
does not list them, or there is no memory for their handles or for their records. What was obtained has been given back. -/
inductive Misses (inst : Instance) : Trace → ResultCode → Prop
  | uncounted (code : FailureCode) : Misses inst [.native (.countPhysicalDevices inst.native) (.error code)] code.val
  | noScratch {counted : UInt32} : counted ≠ 0 →
      Misses inst
        (.native (.countPhysicalDevices inst.native) (.ok counted) ::
          inst.allocator.asks (Layout.nativeHandle.array counted.toUInt64) .command none)
        .outOfHostMemory
  | noArray {counted : UInt32} {scratch : Address} : counted ≠ 0 →
      Misses inst
        (.native (.countPhysicalDevices inst.native) (.ok counted) ::
          (inst.allocator.asks (Layout.nativeHandle.array counted.toUInt64) .command (some scratch) ++
            (inst.allocator.asks (Layout.physicalDevice.array counted.toUInt64) .inst none ++
              inst.allocator.returns (Layout.nativeHandle.array counted.toUInt64) scratch)))
        .outOfHostMemory
  | unlisted {counted : UInt32} {scratch block : Address} (code : FailureCode) : counted ≠ 0 →
      Misses inst
        (.native (.countPhysicalDevices inst.native) (.ok counted) ::
          (inst.allocator.asks (Layout.nativeHandle.array counted.toUInt64) .command (some scratch) ++
            (inst.allocator.asks (Layout.physicalDevice.array counted.toUInt64) .inst (some block) ++
              .native (.listPhysicalDevices inst.native counted) (.error code) ::
                (inst.allocator.returns (Layout.physicalDevice.array counted.toUInt64) block ++
                  inst.allocator.returns (Layout.nativeHandle.array counted.toUInt64) scratch))))
        code.val

/-- The exchanges of a discovery that finds devices. Of what is obtained it keeps the array for the records. -/
def finding (inst : Instance) (counted : UInt32) (scratch block : Address)
    (found : { handles : List NativeHandle // handles.length ≤ counted.toNat }) : Trace :=
  .native (.countPhysicalDevices inst.native) (.ok counted) ::
    (inst.allocator.asks (Layout.nativeHandle.array counted.toUInt64) .command (some scratch) ++
      (inst.allocator.asks (Layout.physicalDevice.array counted.toUInt64) .inst (some block) ++
        .native (.listPhysicalDevices inst.native counted) (.ok found) ::
          inst.allocator.returns (Layout.nativeHandle.array counted.toUInt64) scratch))

/-- The array for the devices that are found: as long as the native driver said there would be, and holding those that it
listed. -/
def arrayFor (counted : UInt32) (block : Address) (found : List NativeHandle) : PhysicalDeviceArray :=
  ⟨block, counted, found.length.toUInt32⟩

/-- What the destruction of an instance says to the native driver. -/
def destruction (inst : Instance) (explicit : Option CallbackSet) : Exchange :=
  .native (.destroyInstance inst.native ((Allocator.merge explicit inst.allocator).nativeCallbacks .call)) ()

theorem exchanges_of_discover {inst : Instance} {trace : Trace}
    {result : Except CallError (Option (PhysicalDeviceArray × List NativeHandle))} (h : inst.discover.Runs trace result) :
    (∃ error, result = .error error ∧ inst.Misses trace error.result) ∨
      (result = .ok none ∧ trace = [.native (.countPhysicalDevices inst.native) (.ok 0)]) ∨
      ∃ counted scratch block found, counted ≠ 0 ∧ result = .ok (some (arrayFor counted block found.val, found.val)) ∧
        trace = inst.finding counted scratch block found := by
  cases discovers h with
  | uncounted code => exact .inl ⟨_, rfl, .uncounted code⟩
  | nothing => exact .inr (.inl ⟨rfl, rfl⟩)
  | noScratch hz hs =>
    obtain ⟨rfl, rfl⟩ := Allocator.asks_of_refused Layout.small_nativeHandle hz hs
    exact .inl ⟨_, rfl, .noScratch hz⟩
  | noArray hz hs ha hd =>
    obtain rfl := Allocator.asks_of_obtained Layout.small_nativeHandle hz hs
    obtain ⟨rfl, rfl⟩ := Allocator.asks_of_refused Layout.small_physicalDevice hz ha
    obtain rfl := Allocator.returns_of_freed Layout.small_nativeHandle hz hd
    exact .inl ⟨_, rfl, .noArray hz⟩
  | unlisted code hz hs ha hd hd' =>
    obtain rfl := Allocator.asks_of_obtained Layout.small_nativeHandle hz hs
    obtain rfl := Allocator.asks_of_obtained Layout.small_physicalDevice hz ha
    obtain rfl := Allocator.returns_of_freed Layout.small_physicalDevice hz hd
    obtain rfl := Allocator.returns_of_freed Layout.small_nativeHandle hz hd'
    exact .inl ⟨_, rfl, .unlisted code hz⟩
  | @listed counted scratch block _ _ _ found hz hs ha hd =>
    obtain rfl := Allocator.asks_of_obtained Layout.small_nativeHandle hz hs
    obtain rfl := Allocator.asks_of_obtained Layout.small_physicalDevice hz ha
    obtain rfl := Allocator.returns_of_freed Layout.small_nativeHandle hz hd
    exact .inr (.inr ⟨counted, scratch, block, found, hz, rfl, rfl⟩)

variable {bridge before after : Bridge} {owner : Address} {inst : Instance} {array : PhysicalDeviceArray}
  {natives : List NativeHandle} {trace : Trace} {listing : Listing} {capacity : UInt32} {intoArray : Bool}

/-- Where there is not room for all devices, the first are reported, and that there are more. -/
theorem report_of_lt (h : capacity < array.count) :
    report capacity true (some array) = ⟨.incomplete, some capacity, (handles (some array)).take capacity.toNat⟩ := by
  have hroom : capacity.toNat ≤ array.count.toNat := (UInt32.lt_iff_toNat_lt.1 h).le
  simp [report, handles, h, ← List.map_take, List.take_range, Nat.min_eq_left hroom]

theorem report_of_not_lt (h : ¬capacity < array.count) :
    report capacity true (some array) = ⟨.success, some array.count, handles (some array)⟩ := by
  simp [report, handles, h]

/-- Once it is known which devices there are, they are reported. -/
theorem enumerate_eq (handle : Option Handle) (capacity : UInt32) (intoArray : Bool) :
    enumeratePhysicalDevices handle (some capacity) intoArray = (do
      match ← resolve .inst handle with
      | .error error => pure ⟨error.result, none, []⟩
      | .ok (handle, record) =>
        match ← obtainPhysicalDevices handle.block record with
        | .error error => pure ⟨error.result, none, []⟩
        | .ok array => pure (report capacity intoArray array)) := by
  cases intoArray
  · rfl
  · rfl

variable [Reckoning]

/-- An instance without devices looks for them. It finds none, or it fails and reports why, and nothing has changed; or it
has them from then on. -/
theorem runs_enumerate_unlisted (hs : before.Sound) (hb : before.blocks[owner]? = some (.inst inst))
    (hnone : inst.physicalDevices = none)
    (h : (enumeratePhysicalDevices (some owner.toHandle) (some capacity) intoArray).Runs before trace listing after) :
    (∃ code, inst.Misses trace code ∧ listing = ⟨code, none, []⟩ ∧ after = before) ∨
      (trace = [.native (.countPhysicalDevices inst.native) (.ok 0)] ∧ listing = report capacity intoArray none ∧
        after = before) ∨
      ∃ counted scratch block found, counted ≠ 0 ∧ trace = inst.finding counted scratch block found ∧
        listing = report capacity intoArray (some (arrayFor counted block found.val)) ∧
          after = populated before owner inst (arrayFor counted block found.val) found.val := by
  have hrecord : before.record? .inst owner.toHandle = some inst := Bridge.record?_inst_iff.2 ⟨rfl, hb⟩
  rw [enumerate_eq] at h
  obtain ⟨_, rfl, h⟩ := (hs.tagged.tells_resolve hrecord).runs_bind h
  dsimp only at h
  rw [Action.runs_bind_iff] at h
  obtain ⟨obtaining, last, obtained, between, rfl, hobtain, h⟩ := h
  rw [obtainPhysicalDevices, hnone, Action.runs_bind_iff] at hobtain
  obtain ⟨discovering, rest, discovered, middle, rfl, hd, hobtain⟩ := hobtain
  obtain ⟨hdiscover, rfl⟩ := Action.runs_lift_iff.1 hd
  obtain ⟨error, rfl, hmisses⟩ | ⟨rfl, rfl⟩ | ⟨counted, scratch, block, found, hz, rfl, rfl⟩ :=
    exchanges_of_discover hdiscover
  · obtain ⟨rfl, rfl, rfl⟩ := Action.runs_pure_iff.1 hobtain
    obtain ⟨rfl, rfl, rfl⟩ := Action.runs_pure_iff.1 h
    exact .inl ⟨error.result, by simpa using hmisses, rfl, rfl⟩
  · obtain ⟨rfl, rfl, rfl⟩ := Action.runs_pure_iff.1 hobtain
    obtain ⟨rfl, rfl, rfl⟩ := Action.runs_pure_iff.1 h
    exact .inr (.inl ⟨rfl, rfl, rfl⟩)
  · simp only [Action.runs_bind_iff, Action.runs_modify_iff, Action.runs_pure_iff] at hobtain
    obtain ⟨_, _, _, _, rfl, ⟨rfl, rfl⟩, _, _, _, _, rfl, ⟨rfl, rfl⟩, rfl, rfl, rfl⟩ := hobtain
    obtain ⟨rfl, rfl, rfl⟩ := Action.runs_pure_iff.1 h
    exact .inr (.inr ⟨counted, scratch, block, found, hz, by simp, rfl, rfl⟩)

/-! ## Devices that are there -/

omit [Reckoning]

/-- An instance has its devices in this array, one record of its own for each of these native handles, in their order. In all
else it is what it was. -/
structure Shows (bridge : Bridge) (owner : Address) (inst : Instance) (array : PhysicalDeviceArray)
    (natives : List NativeHandle) : Prop where
  found : ∃ header : Header, bridge.blocks[owner]? = some (.inst { inst with header, physicalDevices := some array })
  records : ∃ records : Array PhysicalDevice, bridge.blocks[array.block]? = some (.physicalDevices records) ∧
    ∀ i : Nat, records[i]?.map (fun record => (record.native, record.inst)) = natives[i]?.map (·, owner)
  count : array.count.toNat = natives.length

/-- What every listing of the devices in an array comes to. It puts no question to anyone, changes nothing, and reports their
number, or all of their handles, or, if there is not room for all, the first of them and that there are more. -/
structure Repeats (bridge : Bridge) (owner : Address) (array : PhysicalDeviceArray) : Prop where
  counted : ∀ capacity, (enumeratePhysicalDevices (some owner.toHandle) (some capacity) false).Tells bridge []
    ⟨.success, some array.count, []⟩
  listed : ∀ capacity, ¬capacity < array.count →
    (enumeratePhysicalDevices (some owner.toHandle) (some capacity) true).Tells bridge []
      ⟨.success, some array.count, handles (some array)⟩
  short : ∀ capacity, capacity < array.count →
    (enumeratePhysicalDevices (some owner.toHandle) (some capacity) true).Tells bridge []
      ⟨.incomplete, some capacity, (handles (some array)).take capacity.toNat⟩

/-- An instance gets its devices in an array of their own. -/
theorem shows_populated {handles : List NativeHandle} (hne : array.block ≠ owner)
    (hcount : array.count.toNat = handles.length) : Shows (populated before owner inst array handles) owner inst array handles where
  found := ⟨inst.header, Bridge.blocks_put_self⟩
  records := by
    refine ⟨physicalDeviceRecords owner handles, ?_, fun i => ?_⟩
    · rw [populated, Bridge.blocks_put hne, Bridge.blocks_put_self]
    · rw [physicalDeviceRecords, List.getElem?_toArray, List.getElem?_map, Option.map_map]
      rfl
  count := hcount

namespace Shows

/-- The loader's words do not matter. -/
theorem like (h : Shows bridge owner inst array natives) (hl : bridge.Like after) : Shows after owner inst array natives where
  found := by
    obtain ⟨header, hb⟩ := h.found
    obtain ⟨word, ha⟩ := hl.inst hb
    exact ⟨word, ha⟩
  records := by
    obtain ⟨records, hb, hall⟩ := h.records
    obtain ⟨other, ha, hlike⟩ := hl.found _ _ hb
    obtain ⟨others, rfl, -⟩ := hlike.physicalDevices
    refine ⟨others, ha, fun i => (map_getElem?_congr hlike.1 (fun i record other hr ho => ?_) i).trans (hall i)⟩
    rw [(hlike.2 i record other hr ho).1]
  count := h.count

variable [Reckoning]

/-- To list the devices puts no question and changes nothing. -/
theorem tells_enumerate (h : Shows bridge owner inst array natives) (hs : bridge.Sound) (capacity : UInt32)
    (intoArray : Bool) :
    (enumeratePhysicalDevices (some owner.toHandle) (some capacity) intoArray).Tells bridge []
      (report capacity intoArray (some array)) := by
  obtain ⟨header, hb⟩ := h.found
  rw [enumerate_eq]
  refine (hs.tagged.tells_resolve (Bridge.record?_inst_iff.2 ⟨rfl, hb⟩)).bind ?_
  exact (Action.tells_pure bridge _).bind (Action.tells_pure bridge _)

theorem repeats (h : Shows bridge owner inst array natives) (hs : bridge.Sound) : Repeats bridge owner array where
  counted capacity := h.tells_enumerate hs capacity false
  listed capacity hroom := report_of_not_lt hroom ▸ h.tells_enumerate hs capacity true
  short capacity hshort := report_of_lt hshort ▸ h.tells_enumerate hs capacity true

theorem trace_of_enumerate {count : Option UInt32} (h : Shows bridge owner inst array natives) (hs : bridge.Sound)
    (hr : (enumeratePhysicalDevices (some owner.toHandle) count intoArray).Runs bridge trace listing after) : trace = [] := by
  cases count with
  | none =>
    obtain ⟨rfl, -⟩ := Action.runs_pure_iff.1 hr
    rfl
  | some capacity => exact ((h.tells_enumerate hs capacity intoArray _ _ _).1 hr).1

section Event

variable {event : Event} {place : Address} {places : List Address} {trace' : Trace}

/-- An event leaves the record of an instance and the array unless it destroys the instance. -/
theorem outlives (h : Shows bridge owner inst array natives) (hs : bridge.Sound) (hocc : bridge.owned.Occupies places)
    (hf : event.trace.Fresh places) (ho : Outcome bridge place event after) (hk : bridge.Keeps place event.trace trace after)
    (hl : event.Leads bridge after) (hn : ∀ explicit, event.call ≠ .destroyInstance (some owner.toHandle) explicit) :
    (∃ record : Instance, after.blocks[owner]? = some (.inst record)) ∧
      ∀ exchange ∈ event.trace, exchange.returned? ≠ some array.block := by
  obtain ⟨header, hb⟩ := h.found
  obtain ⟨grant, hgrant, hat⟩ := (hs owner _ hb).part_owned (List.mem_singleton_self array.block)
  rw [← hat]
  by_cases he : owner = place
  case neg =>
    have hb' : (bridge.remove place).blocks[owner]? = _ := (Bridge.blocks_remove he).trans hb
    refine ⟨⟨_, (hk.others owner (.inst _) he trivial).2 hb⟩, hk.spares grant ?_⟩
    exact Multiset.mem_of_le (Bridge.owned_le hb') hgrant
  subst he
  have hmem : grant ∈ bridge.owned := Multiset.mem_of_le (Bridge.owned_le hb) hgrant
  have noDevice {device : Device} : bridge.blocks[owner]? ≠ some (.device device) := by
    rw [hb]
    exact nofun
  cases ho with
  | kept hblocks he _ _ => exact ⟨⟨_, hblocks ▸ hb⟩, he.accounts.spares (by rwa [Multiset.zero_add]) hf hmem⟩
  | createdInstance hnone _ _ =>
    rw [hb] at hnone
    cases hnone
  | @populated _ _ trace _ _ _ _ _ _ ha _ =>
    obtain rfl : trace = [] := h.trace_of_enumerate hs hl
    exact ⟨⟨_, ha⟩, List.forall_mem_nil _⟩
  | destroyedInstance _ _ _ => exact (hn _ rfl).elim
  | createdDevice hapart _ _ =>
    rw [hapart.place] at hb
    cases hb
  | destroyedDevice hd => exact (noDevice hd.found).elim
  | createdPool hm _ => exact (noDevice hm.found).elim
  | destroyedPool _ hd => exact (noDevice hd.found).elim
  | allocated hr _ _ => exact (noDevice hr.found).elim
  | freed hr _ _ => exact (noDevice hr.found).elim
  | createdFence hm _ => exact (noDevice hm.found).elim
  | createdPlainFence hfound _ => exact (noDevice hfound).elim
  | destroyedFence _ hd => exact (noDevice hd.found).elim

/-- So the devices are there after it as before. -/
theorem step (h : Shows bridge owner inst array natives) (ht : bridge.Transition after) (hs : after.Sound)
    (ha : ∃ record : Instance, after.blocks[owner]? = some (.inst record)) : Shows after owner inst array natives := by
  obtain ⟨header, hb⟩ := h.found
  obtain ⟨records, hrecords, hall⟩ := h.records
  obtain ⟨record, ha⟩ := ha
  have hsame : record = { inst with header, physicalDevices := some array } := by
    cases ht.instances owner record ha with
    | kept hkept => simpa using hkept.symm.trans hb
    | new hvacant _ =>
      rw [hvacant] at hb
      cases hb
    | listed hold hnone _ _ _ =>
      obtain rfl := by simpa using hold.symm.trans hb
      cases hnone
  subst hsame
  obtain ⟨others, hothers, -⟩ := Instance.Sound.listed (hs owner _ ha) array rfl
  obtain rfl : others = records := by simpa using ht.steady.eq hrecords trivial hothers
  exact ⟨⟨header, ha⟩, ⟨others, hothers, hall⟩, h.count⟩

end Event

/-- Its destruction gives an instance's array back as it was obtained, and its record after it. -/
theorem returns_of_destroy {explicit : Option CallbackSet} (h : Shows bridge owner inst array natives) (hs : bridge.Sound)
    (hr : (destroy (some owner.toHandle) explicit).Runs bridge trace () after) :
    trace = inst.destruction explicit ::
        (inst.allocator.returns (Layout.physicalDevice.array array.capacity.toUInt64) array.block ++
          inst.allocator.returns .instanceRecord owner) ∧
      after.blocks[array.block]? = none ∧ after.blocks[owner]? = none := by
  obtain ⟨header, hb⟩ := h.found
  have hz : array.capacity ≠ 0 := Instance.Sound.capacity (hs owner _ hb) array rfl
  unfold destroy at hr
  dsimp only at hr
  obtain ⟨_, rfl, hr⟩ := (hs.tagged.tells_resolve (Bridge.record?_inst_iff.2 ⟨rfl, hb⟩)).runs_bind hr
  simp only [Action.runs_bind_iff, Action.runs_lift_iff, Action.runs_modify_iff] at hr
  obtain ⟨_, _, _, _, rfl, ⟨hnative, rfl⟩, freeing, _, _, _, rfl, ⟨hfree, rfl⟩, _, _, _, _, rfl, ⟨rfl, rfl⟩, last, _, _, _, rfl,
    ⟨hlast, rfl⟩, rfl, rfl⟩ := hr
  obtain rfl := Program.runs_native_iff.1 hnative
  obtain rfl := Allocator.returns_of_freed Layout.small_physicalDevice hz hfree
  obtain rfl := Allocator.returns_of_freeObject sound_instanceRecord hlast
  refine ⟨by simp [destruction, Address.toHandle], ?_, Bridge.blocks_remove_self⟩
  obtain ⟨records, hrecords, -⟩ := h.records
  have hne : array.block ≠ owner := by
    intro heq
    rw [heq, hb] at hrecords
    cases hrecords
  exact (Bridge.blocks_remove hne).trans Bridge.blocks_remove_self

end Shows

end Instance

/-! ## Listings in a use -/

section Use

variable {history : List Event} {before after : Bridge} {owner : Address} {record : Instance} {capacity : UInt32}
  {intoArray : Bool} {trace : Trace} {listing : Listing}

/-- A listing leaves as many objects of every sort as there were. -/
theorem Event.countP_live_enumerate {handle : Option Handle} {count : Option UInt32} {live : List Object} (owner : Handle)
    (p : Object → Bool) (hp : ∀ handle capacity object, p (Object.list handle capacity object) = p object) :
    (objectsOf owner (Event.live live ⟨.enumeratePhysicalDevices handle count intoArray, trace, listing⟩)).countP (p ·) =
      (objectsOf owner live).countP (p ·) := by
  cases handle with
  | none => rfl
  | some handle =>
    show (objectsOf owner ((trace.findSome? Exchange.listed?).elim live _)).countP _ = _
    cases trace.findSome? Exchange.listed? with
    | none => rfl
    | some capacity =>
      rw [Option.elim_some, objectsOf_map_list, Multiset.countP_map, Multiset.countP_eq_card_filter]
      simp only [hp]

/-- After every use the objects of a handle are few. -/
theorem Attains.few (h : Attains Event.Proper history before) (owner : Handle) (handle : NativeHandle) :
    (objectsOf owner (liveAfter history)).countP (·.refersTo handle) < 2 ^ 32 ∧
      (objectsOf owner (liveAfter history)).countP (·.isFence handle) < 2 ^ 32 := by
  induction h with
  | initial => simp [objectsOf, liveAfter]
  | step _ ha _ _ => exact ⟨ha.references owner handle, ha.fences owner handle⟩
  | load _ _ _ ih => exact ih

/-- A listing is proper if the memory it obtains is nobody's. -/
theorem Attains.proper_enumerate {handle : Option Handle} {count : Option UInt32} (h : Attains Event.Proper history before)
    (hf : trace.Fresh (Trace.held [] (traceOf history))) :
    Event.Proper history ⟨.enumeratePhysicalDevices handle count intoArray, trace, listing⟩ where
  queues _ _ _ _ he := nomatch he
  pool _ _ _ he := nomatch he
  commandBuffers _ _ _ he := nomatch he
  references owner pool := by
    rw [Event.countP_live_enumerate owner (·.refersTo pool) fun _ _ object => by cases object <;> rfl]
    exact (h.few owner pool).1
  fences owner fence := by
    rw [Event.countP_live_enumerate owner (·.isFence fence) fun _ _ object => by cases object <;> rfl]
    exact (h.few owner fence).2
  allocated _ _ _ _ he := nomatch he
  fresh := hf

/-- What holds of an instance once it has its devices, until it is destroyed. -/
theorem Instance.Shows.continues [Reckoning] {array : PhysicalDeviceArray} {natives : List NativeHandle} {later : List Event}
    {between : Bridge} (hn : ¬Reckoning.strict) (h : Attains Event.Proper history before)
    (hshows : Instance.Shows before owner record array natives) (hc : Continues Event.Proper history before later between)
    (hlater : ∀ event ∈ later, ∀ explicit, event.call ≠ .destroyInstance (some owner.toHandle) explicit) :
    Instance.Shows between owner record array natives ∧
      ∀ event ∈ later, ∀ exchange ∈ event.trace, exchange.returned? ≠ some array.block := by
  refine Continues.preserves (Instance.Shows · owner record array natives) _ _ hn h hc hshows
    (fun hs ha hl ho hk ht hevent hbetween => ?_) (fun hl hbetween => hbetween.like hl) hlater
  obtain ⟨halive, hspares⟩ := hbetween.outlives hs.sound hs.occupies ha.fresh ho hk hl hevent
  exact ⟨hbetween.step ht hk.sound halive, hspares⟩

/-- The physical devices of an instance are found once. A listing that fails gives back what it obtained and leaves the
instance without devices, and so does one that finds none; the next begins anew. Once a listing has found some, whatever is
called and whatever the loader writes until the instance is destroyed, the instance has a record for each native handle in
the order of the native driver, and no call gives their array back. Every listing then reports the same devices and exchanges
nothing with anyone. The destruction of the instance gives the array back, as long as it was obtained. -/
theorem populated_once (h : Attains Event.Proper history before) (hb : before.blocks[owner]? = some (.inst record))
    (hnone : record.physicalDevices = none) (hf : trace.Fresh (Trace.held [] (traceOf history)))
    (hr : (Instance.enumeratePhysicalDevices (some owner.toHandle) (some capacity) intoArray).Runs before trace listing after) :
    (∃ code, record.Misses trace code ∧ listing = ⟨code, none, []⟩ ∧ after = before) ∨
    (trace = [.native (.countPhysicalDevices record.native) (.ok 0)] ∧
      listing = Instance.report capacity intoArray none ∧ after = before) ∨
    ∃ counted scratch block found, counted ≠ 0 ∧ trace = record.finding counted scratch block found ∧
      listing = Instance.report capacity intoArray (some (Instance.arrayFor counted block found.val)) ∧
      ∀ later between, Continues Event.Proper
          (⟨.enumeratePhysicalDevices (some owner.toHandle) (some capacity) intoArray, trace, listing⟩ :: history) after
          later between →
        (∀ event ∈ later, ∀ explicit, event.call ≠ .destroyInstance (some owner.toHandle) explicit) →
        Instance.Shows between owner record (Instance.arrayFor counted block found.val) found.val ∧
        (∀ event ∈ later, ∀ exchange ∈ event.trace, exchange.returned? ≠ some block) ∧
        Instance.Repeats between owner (Instance.arrayFor counted block found.val) ∧
        ∀ explicit trace last, (Instance.destroy (some owner.toHandle) explicit).Runs between trace () last →
          trace = record.destruction explicit ::
              (record.allocator.returns (Layout.physicalDevice.array counted.toUInt64) block ++
                record.allocator.returns .instanceRecord owner) ∧
            last.blocks[block]? = none ∧ last.blocks[owner]? = none := by
  let _ : Reckoning := ⟨False⟩
  have hs : Settled history before := h.settled_of_proper id
  have hl : Event.Leads before
    ⟨.enumeratePhysicalDevices (some owner.toHandle) (some capacity) intoArray, trace, listing⟩ after := hr
  have hafter := h.step (h.proper_enumerate hf) hl
  obtain hmisses | hnothing | ⟨counted, scratch, block, found, hz, rfl, rfl, rfl⟩ :=
    Instance.runs_enumerate_unlisted hs.sound hb hnone hr
  · exact .inl hmisses
  · exact .inr (.inl hnothing)
  refine .inr (.inr ⟨counted, scratch, block, found, hz, rfl, rfl, fun later between hc hlater => ?_⟩)
  have hsound := (hafter.settled_of_proper id).sound
  have hne : (Instance.arrayFor counted block found.val).block ≠ owner := by
    obtain ⟨records, hrecords, -⟩ := Instance.Sound.listed (hsound owner _ Bridge.blocks_put_self) _ rfl
    intro heq
    rw [heq, Instance.populated, Bridge.blocks_put_self] at hrecords
    cases hrecords
  have hcount : (Instance.arrayFor counted block found.val).count.toNat = found.val.length := by
    have := found.property
    have := counted.toNat_lt
    simp only [Instance.arrayFor, Nat.toUInt32_eq, UInt32.toNat_ofNat']
    omega
  obtain ⟨hshows, hspared⟩ := (Instance.shows_populated hne hcount).continues id hafter hc hlater
  have hs' : Settled _ between := (hafter.continues hc).settled_of_proper id
  exact ⟨hshows, hspared, hshows.repeats hs'.sound, fun explicit trace last => hshows.returns_of_destroy hs'.sound⟩

end Use

/-! ## A native driver that lists fewer devices than it said -/

namespace Sample

/-- The native driver says that there are three devices and lists two. -/
def overstating : Environment
  | _, .native (.countPhysicalDevices _) => .ok 3
  | number, .native (.listPhysicalDevices inst capacity) =>
    if h : 2 ≤ capacity.toNat then .ok ⟨[7, 8], h⟩
    else Environment.obliging number (.native (.listPhysicalDevices inst capacity))
  | number, request => Environment.obliging number request

theorem attains_overstating :
    Attains Event.Proper (session overstating instanceOnly).1 (session overstating instanceOnly).2 :=
  attains_session (by decide +kernel)

/-- The first listing, with room for one handle. -/
def overstated : Event :=
  ⟨.enumeratePhysicalDevices (some inst) (some 1) true, (listingOf overstating 1).1, (listingOf overstating 1).2.1⟩

/-- A second listing, with room for more than there are. -/
def relisted : Event × Bridge :=
  (Call.enumeratePhysicalDevices (some inst) (some 5) true).play overstating
    (traceOf (overstated :: (session overstating instanceOnly).1)).length (listingOf overstating 1).2.2

end Sample

/-- There is room for one handle first and for five later; both times there are two devices. The array for three goes with the
instance. -/
theorem populated_once_overstating :
    Attains Event.Proper (session Sample.overstating Sample.instanceOnly).1
      (session Sample.overstating Sample.instanceOnly).2 ∧
    ∃ (record : Instance) (scratch block : Address) (found : { handles : List NativeHandle // handles.length ≤ (3 : UInt32).toNat }),
      Sample.overstated.trace = record.finding 3 scratch block found ∧ found.val.length.toUInt32 = 2 ∧
      Instance.Shows Sample.relisted.2 Sample.inst.block record (Instance.arrayFor 3 block found.val) found.val ∧
      Instance.Repeats Sample.relisted.2 Sample.inst.block (Instance.arrayFor 3 block found.val) ∧
      ∃ trace last, (Instance.destroy (some Sample.inst) none).Runs Sample.relisted.2 trace () last ∧
        trace = record.destruction none :: (record.allocator.returns (Layout.physicalDevice.array 3) block ++
          record.allocator.returns .instanceRecord Sample.inst.block) := by
  have hfound : ((session Sample.overstating Sample.instanceOnly).2.record? .inst Sample.inst).isSome := by decide +kernel
  obtain ⟨record, hrecord⟩ := Option.isSome_iff_exists.1 hfound
  have hb := (Bridge.record?_inst_iff.1 hrecord).2
  have hnone : ∀ found ∈ (session Sample.overstating Sample.instanceOnly).2.record? .inst Sample.inst,
      found.physicalDevices.isNone := by decide +kernel
  have hnone := Option.isNone_iff_eq_none.1 (hnone record hrecord)
  have hfresh : (Sample.listingOf Sample.overstating 1).1.Fresh
      (Trace.held [] (traceOf (session Sample.overstating Sample.instanceOnly).1)) := by decide +kernel
  have hcount : (Sample.listingOf Sample.overstating 1).2.1.count = some 1 := by decide +kernel
  have hproper : Sample.relisted.1.ProperForSure (Sample.overstated :: (session Sample.overstating Sample.instanceOnly).1) := by
    decide +kernel
  have harray : ∀ found ∈ (Sample.listingOf Sample.overstating 1).2.2.record? .inst Sample.inst,
      found.physicalDevices.map (fun array => (array.capacity, array.count)) = some (3, 2) := by decide +kernel
  obtain ⟨_, _, hlisting, -⟩ | ⟨-, hlisting, -⟩ | ⟨counted, scratch, block, found, -, htrace, -, hlater⟩ :=
    populated_once Sample.attains_overstating hb hnone hfresh (Sample.runs_listingOf Sample.overstating 1)
  · rw [hlisting] at hcount
    cases hcount
  · rw [hlisting] at hcount
    exact absurd hcount (by decide)
  obtain ⟨hfirst, -⟩ := hlater [] _ .here (List.forall_mem_nil _)
  obtain ⟨header, hheader⟩ := hfirst.found
  obtain ⟨rfl, htwo⟩ : counted = 3 ∧ found.val.length.toUInt32 = 2 := by
    simpa [Instance.arrayFor] using harray _ (Bridge.record?_inst_iff.2 ⟨rfl, hheader⟩)
  have hleads : Sample.relisted.1.Leads (Sample.listingOf Sample.overstating 1).2.2 Sample.relisted.2 :=
    Call.leads_play ..
  have hcall : Sample.relisted.1.call = .enumeratePhysicalDevices (some Sample.inst) (some 5) true := rfl
  obtain ⟨hshows, -, hrepeats, hdestroy⟩ := hlater [Sample.relisted.1] _ (.step .here hproper.proper hleads) <| by
    intro event hm explicit
    rw [List.mem_singleton.1 hm, hcall]
    exact nofun
  obtain ⟨trace, ⟨⟩, last, hrun⟩ := (Instance.destroy (some Sample.inst) none).exists_runs Sample.relisted.2
  exact ⟨Sample.attains_overstating, record, scratch, block, found, htrace, htwo, hshows, hrepeats, trace, last, hrun,
    (hdestroy none trace last hrun).1⟩

end VulkanBridge
