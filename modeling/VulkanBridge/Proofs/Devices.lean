import VulkanBridge.Proofs.Fences
import VulkanBridge.Proofs.Instances
import VulkanBridge.Proofs.Queues
import VulkanBridge.Device.Lifecycle
/-!
# Devices and their memory

What creating a device and destroying it do to memory, to native objects and to the state. A device that is created
has all its arrays, or nothing is left of it; one that is destroyed takes everything along that it owns.
-/

namespace VulkanBridge

namespace Bridge

variable {bridge : Bridge} {address : Address} {families : List QueueFamily} {entries : List (Address × Array Queue)}

/-- The state with the records of queues. -/
def putQueues (bridge : Bridge) (entries : List (Address × Array Queue)) : Bridge :=
  entries.foldl (fun bridge entry => bridge.put entry.1 (.queues entry.2)) bridge

/-- The state without the records of the queues of families. -/
def removeQueues (bridge : Bridge) (families : List QueueFamily) : Bridge :=
  families.foldl (fun bridge family => bridge.remove? family.queues) bridge

theorem blocks_putQueues_of_not_mem (h : address ∉ entries.map (·.1)) :
    (bridge.putQueues entries).blocks[address]? = bridge.blocks[address]? := by
  induction entries generalizing bridge with
  | nil => rfl
  | cons entry rest ih =>
    rw [List.map_cons, List.mem_cons, not_or] at h
    exact (ih h.2).trans (blocks_put h.1)

theorem blocks_putQueues {records : Array Queue} (hn : (entries.map (·.1)).Nodup) (hm : (address, records) ∈ entries) :
    (bridge.putQueues entries).blocks[address]? = some (.queues records) := by
  induction entries generalizing bridge with
  | nil => exact absurd hm List.not_mem_nil
  | cons entry rest ih =>
    obtain ⟨hout, hn⟩ := List.nodup_cons.1 hn
    obtain rfl | hm := List.mem_cons.1 hm
    · exact (blocks_putQueues_of_not_mem hout).trans blocks_put_self
    · exact ih hn hm

theorem blocks_remove?_self : (bridge.remove? (some address)).blocks[address]? = none := blocks_remove_self

theorem blocks_remove?_ne {place : Option Address} (h : place ≠ some address) :
    (bridge.remove? place).blocks[address]? = bridge.blocks[address]? := by
  cases place with
  | none => rfl
  | some place =>
    refine blocks_remove ?_
    rintro rfl
    exact h rfl

theorem removeQueues_cons (family : QueueFamily) :
    bridge.removeQueues (family :: families) = (bridge.remove? family.queues).removeQueues families := rfl

theorem blocks_removeQueues_of_not_mem (h : ∀ family ∈ families, family.queues ≠ some address) :
    (bridge.removeQueues families).blocks[address]? = bridge.blocks[address]? := by
  induction families generalizing bridge with
  | nil => rfl
  | cons family rest ih =>
    rw [removeQueues_cons, ih fun other hm => h other (List.mem_cons_of_mem _ hm)]
    exact blocks_remove?_ne (h family (List.mem_cons_self ..))

theorem blocks_removeQueues_of_none (h : bridge.blocks[address]? = none) :
    (bridge.removeQueues families).blocks[address]? = none := by
  induction families generalizing bridge with
  | nil => exact h
  | cons family rest ih =>
    rw [removeQueues_cons]
    refine ih ?_
    by_cases he : family.queues = some address
    · rw [he, blocks_remove?_self]
    · rw [blocks_remove?_ne he, h]

theorem blocks_removeQueues {family : QueueFamily} (hm : family ∈ families) (h : family.queues = some address) :
    (bridge.removeQueues families).blocks[address]? = none := by
  induction families generalizing bridge with
  | nil => exact absurd hm List.not_mem_nil
  | cons found rest ih =>
    rw [removeQueues_cons]
    obtain rfl | hm := List.mem_cons.1 hm
    · refine blocks_removeQueues_of_none ?_
      rw [h, blocks_remove?_self]
    · exact ih hm

end Bridge

namespace Device

variable {physicalDevice native : NativeHandle} {parent allocator : Allocator} {info : DeviceInfo}
  {explicit : Option CallbackSet} {callbacks : Option NativeCallbacks} {trace : Trace} {storage : Address}

/-! ## Creating -/

/-- The record of a new device. -/
def new (native : NativeHandle) (allocator : Allocator) (block : Option Address) (families : List QueueFamily) : Device :=
  ⟨.new .device, native, allocator, families, block, .empty, .empty, ∅⟩

/-- The arrays of queue records that were built. -/
def queueRecords (built : List BuiltFamily) : List (Address × Array Queue) :=
  built.filterMap fun entry => entry.family.queues.map (·, entry.queues)

theorem addresses_queueRecords (built : List BuiltFamily) :
    (queueRecords built).map (·.1) = (built.map (·.family)).filterMap (·.queues) := by
  induction built with
  | nil => rfl
  | cons entry rest ih =>
    rw [queueRecords, List.filterMap_cons, List.map_cons, List.filterMap_cons]
    cases entry.family.queues with
    | none => exact ih
    | some place => exact congrArg (place :: ·) ih

/-- A new device owns its record and its arrays. -/
theorem owned_new (address : Address) (native : NativeHandle) (allocator : Allocator) (block : Option Address)
    (families : List QueueFamily) : (new native allocator block families).owned address =
      allocator.granted address .device +
        (allocator.grantedArray .queueFamily families.length.toUInt64 block + QueueFamily.owned allocator families) := by
  have hchildren : (new native allocator block families).childrenOwned = 0 := by
    rw [childrenOwned, new, Registry.owned_empty, wrappersOwned, elements_empty]
    rfl
  rw [owned, hchildren, Multiset.add_zero]
  rfl

/-- The arrays of a device were built as requested. -/
structure Built (address : Address) (requests : List QueueRequest) (block : Option Address) (built : List BuiltFamily) :
    Prop where
  block : block.isSome ↔ requests ≠ []
  fits : List.Forall₂ (BuiltFamily.Fits address) built requests

/-- A built family answers a request. -/
theorem Built.request {address : Address} {requests : List QueueRequest} {block : Option Address} {built : List BuiltFamily}
    (h : Built address requests block built) {entry : BuiltFamily} (hm : entry ∈ built) :
    ∃ request ∈ requests, entry.Fits address request := by
  obtain ⟨hlength, hfits⟩ := List.forall₂_iff_get.1 h.fits
  obtain ⟨i, hi, rfl⟩ := List.getElem_of_mem hm
  exact ⟨requests[i], List.getElem_mem _, hfits i hi (hlength ▸ hi)⟩

theorem Built.requests {address : Address} {requests : List QueueRequest} {block : Option Address}
    {built : List BuiltFamily} (h : Built address requests block built) :
    (built.map (·.family)).map (·.request) = requests := by
  have hfits := h.fits
  clear h
  induction hfits with
  | nil => rfl
  | @cons entry request _ _ hentry _ ih =>
    have : entry.family.request = request := by rw [QueueFamily.request, hentry.index, hentry.count]
    rw [List.map_cons, List.map_cons, ih, this]

/-- The state with the record of a new device and those of its queues. -/
def installed (bridge : Bridge) (address : Address) (record : Device) (built : List BuiltFamily) : Bridge :=
  (bridge.put address (.device record)).putQueues (queueRecords built)

/-- The places of a new device and of its queues: they lie apart from each other, where there was no record. -/
structure Apart (bridge : Bridge) (address : Address) (built : List BuiltFamily) : Prop where
  place : bridge.blocks[address]? = none
  queues : ∀ other ∈ (queueRecords built).map (·.1), bridge.blocks[other]? = none
  outside : address ∉ (queueRecords built).map (·.1)
  nodup : ((queueRecords built).map (·.1)).Nodup

theorem Apart.found {bridge : Bridge} {address : Address} {built : List BuiltFamily} (h : Apart bridge address built)
    (record : Device) :
    (installed bridge address record built).blocks[address]? = some (.device record) :=
  (Bridge.blocks_putQueues_of_not_mem h.outside).trans Bridge.blocks_put_self

/-- What was there before the device stays. -/
theorem Apart.kept {bridge : Bridge} {address other : Address} {built : List BuiltFamily} {block : Block}
    (h : Apart bridge address built) (record : Device) (hb : bridge.blocks[other]? = some block) :
    (installed bridge address record built).blocks[other]? = some block := by
  have hne : other ≠ address := by
    rintro rfl
    rw [h.place] at hb
    cases hb
  have hout : other ∉ (queueRecords built).map (·.1) := by
    intro hm
    rw [h.queues other hm] at hb
    cases hb
  exact (Bridge.blocks_putQueues_of_not_mem hout).trans ((Bridge.blocks_put hne).trans hb)

theorem sound_device : Layout.device.Sound := by decide

/-- The creation of a native device that calls back through the record at an address. -/
def creation (allocator : Allocator) (physicalDevice : NativeHandle) (info : DeviceInfo) (storage : Address)
    (outcome : Except FailureCode NativeHandle) : Exchange :=
  .native (.createDevice physicalDevice info (allocator.nativeCallbacks (.record storage))) outcome

/-- The destruction of a native device with the callbacks it was created with. -/
def undoing (allocator : Allocator) (storage : Address) (native : NativeHandle) : Exchange :=
  .native (.destroyDevice native (allocator.nativeCallbacks (.record storage))) ()

/-- All that making a native device with its families can come to, with the runs of its steps. -/
inductive NativeSteps (physicalDevice : NativeHandle) (info : DeviceInfo) (allocator : Allocator) (storage : Address) :
    Trace → Except CallError (NativeHandle × Option Address × List BuiltFamily) → Prop
  | refused (code : FailureCode) : NativeSteps physicalDevice info allocator storage
      [creation allocator physicalDevice info storage (.error code)] (.error (.native code))
  | incomplete {native : NativeHandle} {resolving abandoning : Trace} {error : CallError} :
      (NativeLibrary.requireAll (NativeLibrary.hasDeviceEntry native) deviceNames).Runs resolving (.error error) →
        (abandonNative native (allocator.nativeCallbacks (.record storage))).Runs abandoning () →
          NativeSteps physicalDevice info allocator storage
            ([creation allocator physicalDevice info storage (.ok native)] ++ (resolving ++ abandoning)) (.error error)
  | unbuilt {native : NativeHandle} {resolving building : Trace} {error : CallError} :
      (NativeLibrary.requireAll (NativeLibrary.hasDeviceEntry native) deviceNames).Runs resolving (.ok ()) →
        (QueueFamily.build allocator storage native info.queues.toList).Runs building (.error error) →
          NativeSteps physicalDevice info allocator storage
            ([creation allocator physicalDevice info storage (.ok native)] ++
              (resolving ++ (building ++ [undoing allocator storage native]))) (.error error)
  | built {native : NativeHandle} {resolving building : Trace} {block : Option Address} {built : List BuiltFamily} :
      (NativeLibrary.requireAll (NativeLibrary.hasDeviceEntry native) deviceNames).Runs resolving (.ok ()) →
        (QueueFamily.build allocator storage native info.queues.toList).Runs building (.ok (block, built)) →
          NativeSteps physicalDevice info allocator storage
            ([creation allocator physicalDevice info storage (.ok native)] ++ (resolving ++ building))
            (.ok (native, block, built))

theorem nativeSteps {result : Except CallError (NativeHandle × Option Address × List BuiltFamily)}
    (h : (createNative physicalDevice info allocator storage).Runs trace result) :
    NativeSteps physicalDevice info allocator storage trace result := by
  unfold createNative at h
  dsimp only at h
  rw [Program.runs_bind_iff] at h
  obtain ⟨creating, last, created, rfl, hc, h⟩ := h
  obtain rfl := Program.runs_native_iff.1 hc
  cases created with
  | error code =>
    obtain ⟨rfl, rfl⟩ := h
    exact .refused code
  | ok native =>
  dsimp only at h
  rw [Program.runs_bind_iff] at h
  obtain ⟨resolving, last, found, rfl, hr, h⟩ := h
  cases found with
  | error error =>
    rw [Program.runs_bind_iff] at h
    obtain ⟨abandoning, last, done, rfl, ha, rfl, rfl⟩ := h
    rw [List.append_nil]
    exact .incomplete hr ha
  | ok _ =>
  dsimp only at h
  rw [Program.runs_bind_iff] at h
  obtain ⟨building, last, arrays, rfl, hb, h⟩ := h
  cases arrays with
  | error error =>
    dsimp only at h
    rw [Program.runs_bind_iff] at h
    obtain ⟨destroying, last, done, rfl, hd, rfl, rfl⟩ := h
    obtain rfl := Program.runs_native_iff.1 hd
    exact .unbuilt hr hb
  | ok arrays =>
    obtain ⟨rfl, rfl⟩ := h
    rw [List.append_nil]
    exact .built hr hb

/-- All that building a device can come to, with the runs of its steps. -/
inductive Steps (physicalDevice : NativeHandle) (parent : Allocator) (info : DeviceInfo) (explicit : Option CallbackSet) :
    Trace → Except CallError BuiltDevice → Prop
  | unsupported {error : CallError} : CallError.ofUnsupported info.layers info.extensions = some error →
      Steps physicalDevice parent info explicit [] (.error error)
  | unrecorded {asking : Trace} {error : CallError} : CallError.ofUnsupported info.layers info.extensions = none →
      ((Allocator.merge explicit parent).allocateObject .device .device).Runs asking (.error error) →
        Steps physicalDevice parent info explicit asking (.error error)
  | undone {asking creating freeing : Trace} {storage : Address} {error : CallError} :
      CallError.ofUnsupported info.layers info.extensions = none →
        ((Allocator.merge explicit parent).allocateObject .device .device).Runs asking (.ok storage) →
          (createNative physicalDevice info (Allocator.merge explicit parent) storage).Runs creating (.error error) →
            ((Allocator.merge explicit parent).freeObject .device storage).Runs freeing () →
              Steps physicalDevice parent info explicit (asking ++ (creating ++ freeing)) (.error error)
  | built {asking creating : Trace} {storage : Address} {native : NativeHandle} {block : Option Address}
      {built : List BuiltFamily} :
      CallError.ofUnsupported info.layers info.extensions = none →
        ((Allocator.merge explicit parent).allocateObject .device .device).Runs asking (.ok storage) →
          (createNative physicalDevice info (Allocator.merge explicit parent) storage).Runs creating
            (.ok (native, block, built)) →
            Steps physicalDevice parent info explicit
              (asking ++ (creating ++ [⟨.notice (.deviceCreated native built.length), ()⟩]))
              (.ok ⟨storage, new native (Allocator.merge explicit parent) block (built.map (·.family)), queueRecords built⟩)

theorem steps {result : Except CallError BuiltDevice} (h : (build physicalDevice parent info explicit).Runs trace result) :
    Steps physicalDevice parent info explicit trace result := by
  unfold build at h
  split at h
  case h_1 error hu =>
    obtain ⟨rfl, rfl⟩ := h
    exact .unsupported hu
  case h_2 hu =>
    dsimp only at h
    rw [Program.runs_bind_iff] at h
    obtain ⟨asking, last, stored, rfl, ha, h⟩ := h
    cases stored with
    | error error =>
      obtain ⟨rfl, rfl⟩ := h
      rw [List.append_nil]
      exact .unrecorded hu ha
    | ok storage =>
    dsimp only at h
    rw [Program.runs_bind_iff] at h
    obtain ⟨creating, last, created, rfl, hc, h⟩ := h
    cases created with
    | error error =>
      dsimp only at h
      rw [Program.runs_bind_iff] at h
      obtain ⟨freeing, last, done, rfl, hf, rfl, rfl⟩ := h
      rw [List.append_nil]
      exact .undone hu ha hc hf
    | ok created =>
      obtain ⟨native, block, built⟩ := created
      dsimp only at h
      rw [Program.runs_bind_iff] at h
      obtain ⟨telling, last, done, rfl, hn, rfl, rfl⟩ := h
      obtain rfl := Program.runs_notice_iff.1 hn
      exact .built hu ha hc

variable [Reckoning]

/-- The native device is made and the arrays are obtained, or nothing is left of them. -/
theorem runs_createNative {result : Except CallError (NativeHandle × Option Address × List BuiltFamily)}
    (hf : allocator.Returns) (hl : info.queues.toList.length < 2 ^ 32)
    (h : (createNative physicalDevice info allocator storage).Runs trace result) (ledger : Ledger) :
    (∃ native block built, result = .ok (native, block, built) ∧ Built storage info.queues.toList block built ∧
        trace.Effect ledger
          [.native (.createDevice physicalDevice info (allocator.nativeCallbacks (.record storage))) (.ok native)]
          (ledger + (allocator.grantedArray .queueFamily info.queues.toList.length.toUInt64 block +
            QueueFamily.owned allocator (built.map (·.family))))) ∨
      ∃ error natives, result = .error error ∧ trace.Effect ledger natives ledger ∧
        Trace.Abandons
          (fun outcome =>
            .native (.createDevice physicalDevice info (allocator.nativeCallbacks (.record storage))) outcome)
          (fun native => .native (.destroyDevice native (allocator.nativeCallbacks (.record storage))) ())
          (.noDestroyDevice · ∈ trace) natives := by
  have hcreated (created : Except FailureCode NativeHandle) := Trace.Effect.native (rfl : (Exchange.native
    (.createDevice physicalDevice info (allocator.nativeCallbacks (.record storage))) created).isLifecycle = true) ledger
  have idle {native : NativeHandle} {resolving : Trace} {found : Except CallError Unit}
      (hr : (NativeLibrary.requireAll (NativeLibrary.hasDeviceEntry native) deviceNames).Runs resolving found) :
      resolving.Idle := (NativeLibrary.passive_requireAll (NativeLibrary.passive_hasDeviceEntry _) _).idle _ _ hr
  cases nativeSteps h with
  | refused code => exact .inr ⟨_, _, rfl, hcreated _, .refused code⟩
  | @incomplete native resolving abandoning error hr ha =>
    obtain he | ⟨hia, hm⟩ := NativeLibrary.effect_abandon (fun _ _ => Program.runs_request_iff.1)
      (fun found => (NativeLibrary.passive_hasDeviceEntry native _).idle _ found (Program.runs_request_iff.2 rfl))
      (fun _ => Program.runs_native_iff.1) rfl rfl ha ledger
    · exact .inr ⟨error, _, rfl, (hcreated _).append (.after_idle (idle hr) he), .undone native⟩
    · -- There is no function to destroy the native device with.
      exact .inr ⟨error, _, rfl, (hcreated _).before_idle (Trace.idle_append_iff.2 ⟨idle hr, hia⟩),
        .leaked (List.mem_append_right _ (List.mem_append_right _ hm))⟩
  | @unbuilt native resolving building error hr hb =>
    obtain ⟨_, _, hbuilt, -⟩ | ⟨_, -, he⟩ := QueueFamily.runs_build hf hl hb
    · cases hbuilt
    refine .inr ⟨error, _, rfl, ?_, .undone native⟩
    have he' := he.frame ledger
    rw [Multiset.zero_add] at he'
    exact (hcreated _).append (.after_idle (idle hr) (he'.append (Trace.Effect.native rfl ledger)))
  | @built native resolving building block built hr hb =>
    obtain ⟨_, _, hbuilt, hblock, hfits, he⟩ | ⟨_, hbuilt, -⟩ := QueueFamily.runs_build hf hl hb
    case inr => cases hbuilt
    cases hbuilt
    exact .inl ⟨native, block, built, rfl, ⟨hblock, hfits⟩, (hcreated _).obtain_more (.after_idle (idle hr) he)⟩

/-- Either the device is made and its blocks are those obtained, or nothing is left of it. -/
theorem runs_build {result : Except CallError BuiltDevice} (hp : parent.Returns) (hf : ∀ set ∈ explicit, set.Returns)
    (hl : info.queues.toList.length < 2 ^ 32)
    (h : (build physicalDevice parent info explicit).Runs trace result) :
    (∃ address native block built,
        result = .ok ⟨address, new native (Allocator.merge explicit parent) block (built.map (·.family)), queueRecords built⟩ ∧
        Built address info.queues.toList block built ∧
        trace.Effect 0
          [.native (.createDevice physicalDevice info
            ((Allocator.merge explicit parent).nativeCallbacks (.record address))) (.ok native)]
          ((new native (Allocator.merge explicit parent) block (built.map (·.family))).owned address)) ∨
      ∃ error context natives, result = .error error ∧ trace.Effect 0 natives 0 ∧
        Trace.Abandons
          (fun outcome =>
            .native (.createDevice physicalDevice info ((Allocator.merge explicit parent).nativeCallbacks context)) outcome)
          (fun native => .native (.destroyDevice native ((Allocator.merge explicit parent).nativeCallbacks context)) ())
          (.noDestroyDevice · ∈ trace) natives := by
  have free : (Allocator.merge explicit parent).Returns := Allocator.returns_merge hp hf
  cases steps h with
  | @unsupported error _ => exact .inr ⟨error, .call, [], rfl, .nil 0, .unasked⟩
  | @unrecorded asking error _ ha =>
    obtain ⟨_, hstored, -⟩ | ⟨-, hi⟩ := Allocator.runs_allocateObject ha
    · cases hstored
    · exact .inr ⟨error, .call, [], rfl, hi.effect 0, .unasked⟩
  | @undone asking creating freeing storage error _ ha hc hu =>
    obtain ⟨_, hstored, he⟩ | ⟨hstored, -⟩ := Allocator.runs_allocateObject ha
    case inr => cases hstored
    cases hstored
    obtain ⟨_, _, _, hcreated, -⟩ | ⟨_, natives, hcreated, hn, hab⟩ :=
      runs_createNative free hl hc ((Allocator.merge explicit parent).granted storage .device)
    · cases hcreated
    have hu' := Allocator.runs_freeObject free sound_device hu
    refine .inr ⟨error, _, natives, rfl, ?_, hab.mono fun native hm => ?_⟩
    · have := he.append (hn.append hu')
      rwa [List.append_nil natives] at this
    · exact List.mem_append_right _ (List.mem_append_left _ hm)
  | @built asking creating storage native block built _ ha hc =>
    obtain ⟨_, hstored, he⟩ | ⟨hstored, -⟩ := Allocator.runs_allocateObject ha
    case inr => cases hstored
    cases hstored
    obtain ⟨_, _, _, hcreated, hbuilt, hn⟩ | ⟨_, _, hcreated, -⟩ :=
      runs_createNative free hl hc ((Allocator.merge explicit parent).granted storage .device)
    case inr => cases hcreated
    cases hcreated
    have htold : Trace.Idle [⟨.notice (.deviceCreated native built.length), ()⟩] :=
      Program.idle_notice rfl _ () (Program.runs_notice_iff.2 rfl)
    refine .inl ⟨storage, native, block, built, rfl, hbuilt, ?_⟩
    have howned := owned_new storage native (Allocator.merge explicit parent) block (built.map (·.family))
    rw [List.length_map, hbuilt.fits.length_eq] at howned
    rw [howned]
    exact he.append (hn.before_idle htold)

variable {bridge after : Bridge} {handle : Option Handle}

omit [Reckoning] in
/-- A device inherits the allocator of its instance, if there is one. -/
theorem bequeaths_parent (bridge : Bridge) (inst : Handle) :
    bridge.Bequeaths ((bridge.record? .inst inst).elim Allocator.system (·.allocator)) := by
  cases hr : bridge.record? .inst inst with
  | none => exact .inl rfl
  | some record => exact .inr ⟨inst.block, _, (Bridge.record?_inst_iff.1 hr).2, rfl⟩

/-- The allocator that a device inherits can free. -/
theorem returns_parent (hs : bridge.Sound) (inst : Handle) :
    ((bridge.record? .inst inst).elim Allocator.system (·.allocator)).Returns := by
  cases hr : bridge.record? .inst inst with
  | none => exact Allocator.returns_system
  | some record =>
    obtain ⟨-, hb⟩ := Bridge.record?_inst_iff.1 hr
    exact Instance.Sound.free (hs inst.block _ hb)

/-- A device was made, with everything it was asked to have. -/
structure Made (bridge : Bridge) (info : DeviceInfo) (explicit : Option CallbackSet) (trace : Trace) (after : Bridge)
    (address : Address) (native physicalDevice : NativeHandle) (parent : Allocator) (block : Option Address)
    (built : List BuiltFamily) : Prop where
  free : parent.Returns
  inherits : bridge.Bequeaths parent
  arrays : Built address info.queues.toList block built
  left : after =
    installed bridge address (new native (Allocator.merge explicit parent) block (built.map (·.family))) built
  effect : trace.Effect 0
    [.native (.createDevice physicalDevice info ((Allocator.merge explicit parent).nativeCallbacks (.record address)))
      (.ok native)]
    ((new native (Allocator.merge explicit parent) block (built.map (·.family))).owned address)

/-- Either a device is made, or nothing is kept. -/
theorem runs_create {info : Option DeviceInfo} {output : Bool} {code : ResultCode} {stored : Option Handle}
    (hs : bridge.Sound) (hf : ∀ set ∈ explicit, set.Returns)
    (hl : ∀ wanted ∈ info, wanted.queues.toList.length < 2 ^ 32)
    (h : (create handle info explicit output).Runs bridge trace (code, stored) after) :
    (∃ wanted address native physicalDevice parent block built, info = some wanted ∧ stored = some address.toHandle ∧
        Made bridge wanted explicit trace after address native physicalDevice parent block built) ∨
      (stored = none ∧ after = bridge ∧ ∃ physicalDevice wanted parent context natives, bridge.Bequeaths parent ∧
        trace.Effect 0 natives 0 ∧ Trace.Abandons
          (fun outcome =>
            .native (.createDevice physicalDevice wanted ((Allocator.merge explicit parent).nativeCallbacks context)) outcome)
          (fun native => .native (.destroyDevice native ((Allocator.merge explicit parent).nativeCallbacks context)) ())
          (.noDestroyDevice · ∈ trace) natives) := by
  have nothing (hi : trace.Idle) :
      ∃ physicalDevice wanted parent context natives, bridge.Bequeaths parent ∧ trace.Effect 0 natives 0 ∧ Trace.Abandons
          (fun outcome =>
            .native (.createDevice physicalDevice wanted ((Allocator.merge explicit parent).nativeCallbacks context)) outcome)
          (fun native => .native (.destroyDevice native ((Allocator.merge explicit parent).nativeCallbacks context)) ())
          (.noDestroyDevice · ∈ trace) natives :=
    ⟨0, ⟨0, 0, .absent 0⟩, .system, .call, [], .inl rfl, hi.effect 0, .unasked⟩
  unfold create at h
  split at h
  case h_1 wanted =>
    rw [Action.runs_bind_iff] at h
    obtain ⟨resolving, last, resolved, between, rfl, hr, h⟩ := h
    obtain ⟨rfl, hi⟩ := idle_resolve _ _ _ _ _ _ hr
    cases resolved with
    | error error =>
      obtain ⟨rfl, he, rfl⟩ := Action.runs_pure_iff.1 h
      obtain ⟨-, rfl⟩ := Prod.mk.inj he
      exact .inr ⟨rfl, rfl, nothing (Trace.idle_append_iff.2 ⟨hi, Trace.idle_nil⟩)⟩
    | ok resolved =>
      obtain ⟨_, physicalDevice⟩ := resolved
      simp only [Action.runs_bind_iff, Action.runs_get_iff, Action.runs_lift_iff] at h
      obtain ⟨_, _, _, _, rfl, ⟨rfl, rfl, rfl⟩, building, last, result, _, rfl, ⟨hb, rfl⟩, h⟩ := h
      have hparent := returns_parent hs physicalDevice.inst.toHandle
      have hinherits := bequeaths_parent bridge physicalDevice.inst.toHandle
      obtain ⟨address, native, block, built, rfl, hbuilt, he⟩ | ⟨error, context, natives, rfl, he, hab⟩ :=
        runs_build hparent hf (hl wanted rfl) hb
      · simp only [Action.runs_bind_iff, Action.runs_modify_iff, Action.runs_pure_iff, Prod.mk.injEq] at h
        obtain ⟨_, _, _, _, rfl, ⟨rfl, rfl⟩, rfl, ⟨-, rfl⟩, rfl⟩ := h
        exact .inl ⟨wanted, address, native, physicalDevice.native, _, block, built, rfl, rfl,
          hparent, hinherits, hbuilt, rfl, .after_idle hi (he.before_idle Trace.idle_nil)⟩
      · simp only [Action.runs_bind_iff, Action.runs_lift_iff, Action.runs_pure_iff, Prod.mk.injEq] at h
        obtain ⟨telling, _, _, _, rfl, ⟨hn, rfl⟩, rfl, ⟨-, rfl⟩, rfl⟩ := h
        have hn := Program.idle_notice rfl _ _ hn
        refine .inr ⟨rfl, rfl, physicalDevice.native, wanted, _, context, natives, hinherits, ?_, hab.mono fun native hm => ?_⟩
        · exact .after_idle hi (he.before_idle (Trace.idle_append_iff.2 ⟨hn, Trace.idle_nil⟩))
        · exact List.mem_append_right _ (List.mem_append_right _ (List.mem_append_left _ hm))
  case h_2 =>
    obtain ⟨rfl, he, rfl⟩ := Action.runs_pure_iff.1 h
    obtain ⟨-, rfl⟩ := Prod.mk.inj he
    exact .inr ⟨rfl, rfl, nothing Trace.idle_nil⟩

variable {places : List Address} {natives : Trace} {address : Address} {block : Option Address} {built : List BuiltFamily}
  {requests : List QueueRequest} {device : Device}

theorem apart_new (hs : bridge.Sound) (ho : bridge.owned.Occupies places) (hf : trace.Fresh places)
    (he : trace.Effect 0 natives ((new native allocator block (built.map (·.family))).owned address)) :
    Apart bridge address built := by
  have hall : ((new native allocator block (built.map (·.family))).owned address).map Grant.address =
      address ::ₘ ((allocator.grantedArray .queueFamily (built.map (·.family)).length.toUInt64 block).map Grant.address +
        ((queueRecords built).map (·.1) : Multiset Address)) := by
    rw [owned_new, Multiset.map_add, Multiset.map_add, QueueFamily.addresses_owned, addresses_queueRecords]
    rfl
  have hdistinct : ((new native allocator block (built.map (·.family))).owned address).Distinct := by
    have := (he.accounts.frame bridge.owned).occupies (by rwa [Multiset.zero_add]) hf
    exact this.distinct.of_add_left
  have hfresh {other : Address} (hm : other = address ∨ other ∈ (queueRecords built).map (·.1)) :
      bridge.blocks[other]? = none := by
    have : other ∈ ((new native allocator block (built.map (·.family))).owned address).map Grant.address := by
      rw [hall, Multiset.mem_cons, Multiset.mem_add, Multiset.mem_coe]
      exact hm.imp_right .inr
    obtain ⟨grant, hg, rfl⟩ := Multiset.mem_map.1 this
    exact hs.fresh ho hf he hg
  rw [Ledger.Distinct, hall, Multiset.nodup_cons, Multiset.mem_add, not_or, Multiset.nodup_add] at hdistinct
  obtain ⟨⟨-, hout⟩, -, hnodup, -⟩ := hdistinct
  exact ⟨hfresh (.inl rfl), fun other hm => hfresh (.inr hm), fun hm => hout (Multiset.mem_coe.2 hm),
    Multiset.coe_nodup.1 hnodup⟩

/-- What is owned once a device is made. -/
theorem keeps_new (hs : bridge.Sound) (ho : bridge.owned.Occupies places) (hf : trace.Fresh places)
    (ha : allocator.Returns) (hl : requests.length < 2 ^ 32) (hbuilt : Built address requests block built)
    (he : trace.Effect 0 natives ((new native allocator block (built.map (·.family))).owned address)) :
    bridge.Keeps address trace natives
      (installed bridge address (new native allocator block (built.map (·.family))) built) := by
  have hapart : Apart bridge address built := apart_new hs ho hf he
  -- Only a few fields of the new record matter here, and terms with all of them are large.
  generalize hrecord : new native allocator block (built.map (·.family)) = record at he
  have hfamilies : record.families = built.map (·.family) := by rw [← hrecord]; rfl
  have hcommandBuffers : record.commandBuffers = ∅ := by rw [← hrecord]; rfl
  have hself : (installed bridge address record built).blocks[address]? = some (.device record) := hapart.found record
  have hparts : (installed bridge address record built).partsAt address = (queueRecords built).map (·.1) := by
    rw [Bridge.partsAt_of_some hself, Block.parts, parts, hcommandBuffers, hfamilies, addresses_queueRecords]
    exact List.append_nil _
  have hold : bridge.partsAt address = [] := Bridge.partsAt_of_none hapart.place
  have hqueues {place : Address} {records : Array Queue} (hm : (place, records) ∈ queueRecords built) :
      (installed bridge address record built).blocks[place]? = some (.queues records) :=
    Bridge.blocks_putQueues hapart.nodup hm
  have hc : bridge.Changes (installed bridge address record built) address := by
    refine ⟨fun other hne _ hp => ?_, ?_, ?_, ?_, ?_⟩
    · rw [hparts] at hp
      exact (Bridge.blocks_putQueues_of_not_mem hp).trans (Bridge.blocks_put hne)
    · rw [hapart.place]
      intro block hm
      cases hm
    · rw [hparts]
      exact fun other hm => .inr (hapart.queues other hm)
    · rw [hparts, hold]
      intro other found hm hfound
      have hm := hm.resolve_left List.not_mem_nil
      obtain ⟨⟨place, records⟩, he, rfl⟩ := List.mem_map.1 hm
      obtain rfl := Option.some.inj ((hqueues he).symm.trans hfound)
      exact ⟨trivial, hm⟩
    · intro found hfound
      obtain rfl := Option.some.inj (hself.symm.trans hfound)
      have family {family : QueueFamily} (hm : family ∈ built.map (·.family)) :
          (family.queues.isSome ↔ family.count ≠ 0) ∧ ∀ place ∈ family.queues, ∃ records,
            (installed bridge address record built).blocks[place]? = some (.queues records) ∧
              ∀ found ∈ records, found.header.tag = ObjectKind.queue.tag ∧ found.device = address := by
        obtain ⟨entry, hentry, rfl⟩ := List.mem_map.1 hm
        obtain ⟨request, -, hfits⟩ := hbuilt.request hentry
        refine ⟨hfits.count ▸ hfits.queues, fun place hp => ⟨entry.queues, hqueues ?_, hfits.records⟩⟩
        refine List.mem_filterMap.2 ⟨entry, hentry, ?_⟩
        rw [Option.mem_def.1 hp]
        rfl
      have hlength : record.families.length = requests.length := by
        rw [hfamilies, List.length_map, hbuilt.fits.length_eq]
      subst hrecord
      refine ⟨rfl, ha, hlength ▸ hl, ?_, fun _ hm => (family hm).1, fun _ hm => (family hm).2, Registry.sound_empty,
        Registry.sound_empty, ?_, ?_⟩
      · refine hbuilt.block.trans (not_congr ?_)
        rw [← List.length_eq_zero_iff, ← List.length_eq_zero_iff, hlength]
      · exact fun _ _ hm => absurd hm Std.ExtTreeSet.not_mem_empty
      · intro pool hheld
        refine (hheld ?_).elim
        rw [held, hcommandBuffers, elements_empty, Multiset.countP_zero]
  refine hc.keeps hs ho hf ?_
  rw [Bridge.ownedAt_of_none hapart.place, Bridge.ownedAt_of_some hself]
  exact he

/-! ## Destroying -/

/-- What a call says to the native driver when it destroys a device. -/
def destruction (device : Device) (explicit : Option CallbackSet) : Exchange :=
  .native (.destroyDevice device.native ((Allocator.merge explicit device.allocator).nativeCallbacks .call)) ()

/-- The state without a device that has no command buffers left. -/
def removed (bridge : Bridge) (address : Address) (device : Device) : Bridge :=
  (bridge.removeQueues device.families).remove address

/-- A device without command buffers gives back all it owns. -/
theorem keeps_removed (hs : (bridge.put address (.device device)).Sound)
    (ho : (bridge.put address (.device device)).owned.Occupies places) (hf : trace.Fresh places)
    (hc : elements device.commandBuffers = 0)
    (he : trace.Effect (device.allocator.granted address .device + device.queuesOwned +
      (device.pools.owned + device.fences.owned)) natives 0) :
    (bridge.put address (.device device)).Keeps address trace natives (removed bridge address device) := by
  have hself : (bridge.put address (.device device)).blocks[address]? = some (.device device) := Bridge.blocks_put_self
  have hgone : (removed bridge address device).blocks[address]? = none := Bridge.blocks_remove_self
  have hsd : device.Sound (bridge.put address (.device device)) address := hs address _ hself
  have mem_parts {place : Address} : place ∈ (bridge.put address (.device device)).partsAt address ↔
      ∃ family ∈ device.families, family.queues = some place := by
    rw [Bridge.partsAt_of_some hself, Block.parts, mem_parts_iff, or_iff_left]
    rintro ⟨pool, hm⟩
    have := mem_elements.2 hm
    rw [hc] at this
    exact Multiset.notMem_zero _ this
  have hnew := Bridge.partsAt_of_none hgone
  have hchanges : (bridge.put address (.device device)).Changes (removed bridge address device) address := by
    refine ⟨fun other hne hp _ => ?_, ?_, ?_, ?_, ?_⟩
    · rw [removed, Bridge.blocks_remove hne, Bridge.blocks_put hne]
      exact Bridge.blocks_removeQueues_of_not_mem fun family hm hq => hp (mem_parts.2 ⟨family, hm, hq⟩)
    · rw [hself]
      intro block hm
      cases hm
      trivial
    · rw [hnew]
      exact fun _ hm => absurd hm List.not_mem_nil
    · rw [hnew]
      intro other block hm hblock
      obtain ⟨family, hfamily, hq⟩ := mem_parts.1 (hm.resolve_right List.not_mem_nil)
      have hne : other ≠ address := by
        obtain ⟨records, hr, -⟩ := hsd.queueBlocks family hfamily other hq
        rintro rfl
        rw [hself] at hr
        cases hr
      rw [removed, Bridge.blocks_remove hne, Bridge.blocks_removeQueues hfamily hq] at hblock
      cases hblock
    · rw [hgone]
      intro block hm
      cases hm
  refine hchanges.keeps hs ho hf ?_
  have hw : wrappersOwned device.pools device.commandBuffers = 0 := by
    rw [wrappersOwned, hc]
    rfl
  rw [Bridge.ownedAt_of_some hself, Bridge.ownedAt_of_none hgone, Block.owned, owned, childrenOwned, hw, Multiset.add_zero]
  exact he

/-- Giving back what a device owns, once the native device is gone. -/
def dismantle (owner : Address) (device : Device) : Action Unit := do
  let device ← CommandBuffer.drain (fun _ => true) device
  QueueFamily.freeAll device.allocator device.familyBlock device.families device.families.length.toUInt64
  device.pools.drop
  device.fences.drop
  device.allocator.freeObject .device owner
  modify fun bridge => removed bridge owner device

/-- The number of families fits the word that it is passed in. -/
theorem Sound.toNat_length (h : device.Sound bridge address) :
    device.families.length.toUInt64.toNat = device.families.length := by
  have := h.few
  rw [Nat.toUInt64_eq, UInt64.toNat_ofNat', Nat.mod_eq_of_lt (by omega)]

theorem Sound.length_ne_zero (h : device.Sound bridge address) (hb : device.familyBlock.isSome) :
    device.families.length.toUInt64 ≠ 0 := by
  intro hz
  refine h.familyBlock.1 hb (List.length_eq_zero_iff.1 ?_)
  rw [← h.toNat_length, hz]
  rfl

/-- The blocks of a device without command buffers are given back, first the arrays and last the record. -/
theorem Sound.effect_freed {queues pools fences record : Trace} {done done₁ done₂ done₃ : Unit}
    (h : device.Sound bridge address)
    (hq : (QueueFamily.freeAll device.allocator device.familyBlock device.families
      device.families.length.toUInt64).Runs queues done)
    (hp : device.pools.drop.Runs pools done₁) (hf : device.fences.drop.Runs fences done₂)
    (hr : (device.allocator.freeObject .device address).Runs record done₃) :
    (queues ++ (pools ++ (fences ++ record))).Effect
      (device.allocator.granted address .device + device.queuesOwned + (device.pools.owned + device.fences.owned)) [] 0 := by
  have hqueues := QueueFamily.runs_freeAll h.free (by rw [h.toNat_length]; exact h.few) h.length_ne_zero
    (fun family hm hq => (h.queues family hm).1 hq) hq
  have hpools := Registry.runs_drop h.pools hp
  have hfences := Registry.runs_drop h.fences hf
  have hrecord := Allocator.runs_freeObject h.free sound_device hr
  have horder : device.allocator.granted address .device + device.queuesOwned +
      (device.pools.owned + device.fences.owned) =
        device.queuesOwned + (device.pools.owned + (device.fences.owned + device.allocator.granted address .device)) := by
    rw [Multiset.add_comm (device.allocator.granted address .device), Multiset.add_assoc,
      Multiset.add_comm (device.allocator.granted address .device), Multiset.add_assoc]
  rw [horder]
  exact hqueues.both (hpools.both (hfences.both hrecord))

theorem dismantle_keeps {result : Unit} (hs : (bridge.put address (.device device)).Sound)
    (ho : (bridge.put address (.device device)).owned.Occupies places) (hf : trace.Fresh places)
    (h : (dismantle address device).Runs bridge trace result after) :
    (bridge.put address (.device device)).Keeps address trace [] after ∧ after.blocks[address]? = none := by
  unfold dismantle at h
  simp only [Action.runs_bind_iff, Action.runs_lift_iff, Action.runs_modify_iff] at h
  obtain ⟨freeing, _, changed, between, rfl, hfree, queues, _, _, _, rfl, ⟨hqueues, rfl⟩, dropping, _, _, _, rfl,
    ⟨hpools, rfl⟩, dropping', _, _, _, rfl, ⟨hfences, rfl⟩, own, _, _, _, rfl, ⟨hrecord, rfl⟩, rfl, rfl⟩ := h
  rw [List.append_nil] at *
  obtain ⟨hfreeing, hgiving⟩ := Trace.fresh_append_iff.1 hf
  -- First the command buffers go, then the rest.
  obtain ⟨hk, hregroups, hgone⟩ := CommandBuffer.drain_keeps hs ho hfreeing hfree
  have hleft : elements changed.commandBuffers = 0 := by
    rw [List.filter_true] at hgone
    exact left_eq_add.1 hgone
  have ho' := hk.effect.accounts.occupies ho hfreeing
  have hsd : changed.Sound (between.put address (.device changed)) address := hk.sound address _ Bridge.blocks_put_self
  exact ⟨hk.trans (keeps_removed hk.sound ho' hgiving hleft (hsd.effect_freed hqueues hpools hfences hrecord)),
    Bridge.blocks_remove_self⟩

/-- A device was destroyed: first the native device, and then everything it owned was given back. -/
structure Destroyed (bridge : Bridge) (handle : Option Handle) (explicit : Option CallbackSet) (trace : Trace)
    (after : Bridge) (owner : Address) (device : Device) : Prop where
  handle : handle = some owner.toHandle
  found : bridge.blocks[owner]? = some (.device device)
  first : ∃ rest, trace = destruction device explicit :: rest
  keeps : bridge.Keeps owner trace [destruction device explicit] after
  gone : after.blocks[owner]? = none

theorem runs_destroy {result : Unit} (hs : bridge.Sound) (ho : bridge.owned.Occupies places) (hf : trace.Fresh places)
    (h : (destroy handle explicit).Runs bridge trace result after) :
    (∃ owner device, Destroyed bridge handle explicit trace after owner device) ∨
      (after = bridge ∧ trace.Idle ∧ bridge.Lacks .device handle) := by
  unfold destroy at h
  cases handle with
  | none =>
    obtain ⟨rfl, -, rfl⟩ := Action.runs_pure_iff.1 h
    exact .inr ⟨rfl, Trace.idle_nil, rfl⟩
  | some handle =>
  dsimp only at h
  rw [Action.runs_bind_iff] at h
  obtain ⟨resolving, last, resolved, between, rfl, hr, h⟩ := h
  obtain ⟨rfl, ⟨owner, device, hh, hb, rfl, rfl⟩ | ⟨hno, rfl, hi⟩⟩ := hs.runs_resolve hr rfl
  · have hself := Bridge.put_self hb
    rw [List.nil_append] at *
    dsimp only at h
    rw [Action.runs_bind_iff] at h
    obtain ⟨destroying, last, done, between, rfl, hd, h⟩ := h
    obtain ⟨hnative, rfl⟩ := Action.runs_lift_iff.1 hd
    obtain rfl := Program.runs_native_iff.1 hnative
    have hlast : ∃ telling rest, last = telling ++ rest ∧ telling.Idle ∧
        (dismantle owner device).Runs bridge rest result after := by
      split at h
      case isTrue => exact ⟨[], last, rfl, Trace.idle_nil, h⟩
      case isFalse =>
        rw [Action.runs_bind_iff] at h
        obtain ⟨telling, rest, done, between, rfl, hn, h⟩ := h
        obtain ⟨hnotice, rfl⟩ := Action.runs_lift_iff.1 hn
        exact ⟨telling, rest, rfl, Program.idle_notice rfl _ _ hnotice, h⟩
    obtain ⟨telling, rest, rfl, hidle, hdismantle⟩ := hlast
    obtain ⟨hfirst, hlast⟩ := Trace.fresh_append_iff.1 hf
    obtain ⟨htelling, hrest⟩ := Trace.fresh_append_iff.1 hlast
    have hdestruction : bridge.Keeps owner [destruction device explicit] [destruction device explicit] bridge :=
      hs.keeps_still ho hfirst rfl (.native rfl 0) owner
    have htold := hdestruction.trans (hs.keeps_idle hidle owner)
    have ho' := htold.effect.accounts.occupies ho (Trace.fresh_append_iff.2 ⟨hfirst, htelling⟩)
    rw [Trace.held_append] at ho'
    rw [← hself] at hs ho'
    obtain ⟨hk, hgone⟩ := dismantle_keeps hs ho' hrest hdismantle
    rw [hself] at hk
    refine .inl ⟨owner, device, hh, hb, ⟨_, rfl⟩, ?_, hgone⟩
    have := htold.trans hk
    rwa [List.append_assoc] at this
  · obtain ⟨rfl, -, rfl⟩ := Action.runs_pure_iff.1 h
    exact .inr ⟨rfl, Trace.idle_append_iff.2 ⟨hi, Trace.idle_nil⟩, hno⟩

end Device

end VulkanBridge
