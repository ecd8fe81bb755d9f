import VulkanBridge.Proofs.Creation
import VulkanBridge.Proofs.Emptying
/-!
# Devices that are destroyed with all they have left

What is left of a device's children goes with it, in a fixed order: the records of command buffers by pool and address, the
queues, the entries of pools and of fences by handle, and the device's own record (`device_dismantled`). The entries of
pools are still there for their command buffers, and by the time they go they count the pools that nobody destroyed.
-/

namespace VulkanBridge

/-! ## Objects and their handles -/

namespace Object

/-- The object is a pool of the device. -/
def isPoolOf (owner : Handle) : Object → Bool
  | pool handle .. => handle = owner
  | _ => false

/-- The object is a fence of the device, and was created with callbacks of its own. -/
def isKeptFenceOf (owner : Handle) : Object → Bool
  | fence handle _ (some _) => handle = owner
  | _ => false

/-- The native handle of a pool or a fence. -/
def native : Object → NativeHandle
  | pool _ found _ | fence _ found _ => found
  | _ => 0

variable {owner : Handle} {object : Object}

theorem eq_of_isPoolOf (h : object.isPoolOf owner) : ∃ pool created, object = .pool owner pool created := by
  unfold isPoolOf at h
  split at h
  · exact ⟨_, _, by rw [of_decide_eq_true h]⟩
  · cases h

theorem eq_of_isKeptFenceOf (h : object.isKeptFenceOf owner) : ∃ fence set, object = .fence owner fence (some set) := by
  unfold isKeptFenceOf at h
  split at h
  · exact ⟨_, _, by rw [of_decide_eq_true h]⟩
  · cases h

end Object

/-- Objects of one owner are no more than those that count the same among all. -/
theorem countP_le_objectsOf {owner : Handle} {live : List Object} {counts few : Object → Bool}
    (h : ∀ object, counts object → few object ∧ object.owner = owner) :
    live.countP counts ≤ (objectsOf owner live).countP (fun object => few object) := by
  rw [objectsOf, Multiset.filter_coe, Multiset.coe_countP, List.countP_filter]
  exact List.countP_mono_left fun object _ hcounts => by simpa using h object hcounts

/-- As many keys as there are objects, if each object that counts has one of them and no two have the same. -/
theorem length_eq_countP {α κ : Type} [DecidableEq κ] {keys : List κ} {objects : List α} {counts : α → Bool} {key : α → κ}
    (hn : keys.Nodup) (hm : ∀ found, found ∈ keys ↔ ∃ object ∈ objects, counts object ∧ key object = found)
    (hone : ∀ found, objects.countP (fun object => counts object && key object = found) ≤ 1) :
    keys.length = objects.countP counts := by
  have hnodup : ((objects.filter counts).map key).Nodup := by
    refine List.nodup_iff_count_le_one.2 fun found => ?_
    rw [List.count_eq_countP, List.countP_map, List.countP_filter]
    refine le_of_eq_of_le (List.countP_congr fun object _ => ?_) (hone found)
    simp [and_comm]
  have hperm : keys.Perm ((objects.filter counts).map key) := by
    refine (List.perm_ext_iff_of_nodup hn hnodup).2 fun found => ?_
    rw [hm, List.mem_map]
    simp only [List.mem_filter, and_assoc]
  rw [hperm.length_eq, List.length_map, List.countP_eq_length_filter]

/-! ## What a registry has left -/

namespace Registry

variable {registry result : Registry} {handle : UInt64} {grant : Grant}

/-- The blocks of a registry's entries, in the order of their handles. -/
def remaining (registry : Registry) : List (UInt64 × Grant) := registry.entries.toList.map fun entry => (entry.1, entry.2.grant)

theorem mem_remaining : (handle, grant) ∈ registry.remaining ↔ registry.grant? handle = some grant := by
  rw [remaining, List.mem_map, grant?, Option.map_eq_some_iff]
  constructor
  · rintro ⟨⟨_, entry⟩, hm, ⟨⟩⟩
    exact ⟨entry, Std.ExtTreeMap.mem_toList_iff_getElem?_eq_some.1 hm, rfl⟩
  · rintro ⟨entry, he, rfl⟩
    exact ⟨(handle, entry), Std.ExtTreeMap.mem_toList_iff_getElem?_eq_some.2 he, rfl⟩

theorem length_remaining (registry : Registry) : registry.remaining.length = registry.size := by
  rw [remaining, List.length_map, Std.ExtTreeMap.length_toList, size]

theorem pairwise_remaining (registry : Registry) : registry.remaining.Pairwise (·.1 < ·.1) := by
  rw [remaining, List.pairwise_map]
  exact Std.ExtTreeMap.ordered_keys_toList.imp Std.compare_eq_lt.1

/-- A registry has as many entries left as there are objects it knows, if no two of them have the same handle. -/
theorem length_remaining_eq_countP {live : List Object} {counts : Object → Bool}
    (hm : ∀ handle, registry.contains handle ↔ ∃ object ∈ live, counts object ∧ object.native = handle)
    (hone : ∀ handle, live.countP (fun object => counts object && object.native = handle) ≤ 1) :
    registry.remaining.length = live.countP counts := by
  have hnodup : (registry.remaining.map (·.1)).Nodup :=
    List.pairwise_map.2 ((pairwise_remaining registry).imp fun hlt => UInt64.ne_of_lt hlt)
  have hkeys (handle : UInt64) : handle ∈ registry.remaining.map (·.1) ↔ registry.contains handle := by
    rw [contains_iff_grant?, Option.ne_none_iff_exists']
    simp [← mem_remaining]
  rw [← length_eq_countP hnodup (fun handle => (hkeys handle).trans (hm handle)) hone, List.length_map]

/-- What is left depends on the entries' blocks alone, not on their references. -/
theorem remaining_congr (h : ∀ handle, result.grant? handle = registry.grant? handle) :
    result.remaining = registry.remaining := by
  have : Std.Irrefl fun entry other : UInt64 × Grant => entry.1 < other.1 := ⟨fun _ => UInt64.lt_irrefl _⟩
  have : Std.Antisymm fun entry other : UInt64 × Grant => entry.1 < other.1 :=
    ⟨fun _ _ hlt hgt => absurd (UInt64.lt_trans hlt hgt) (UInt64.lt_irrefl _)⟩
  refine (pairwise_remaining result).eq_of_mem_iff (pairwise_remaining registry) ?_
  rintro ⟨handle, grant⟩
  rw [mem_remaining, mem_remaining, h]

/-- The exchanges at the end of a registry: a warning of how many entries are left, if there are any, and the return of
each. -/
def leaks (registry : Registry) : Trace :=
  (if registry.remaining = [] then [] else [⟨.notice (.entriesLeaked registry.remaining.length), ()⟩]) ++
    registry.remaining.flatMap fun entry => entry.2.allocator.returns .registryEntry entry.2.address

theorem leaks_of_drop {trace : Trace} {value : Unit} (h : registry.drop.Runs trace value) : trace = registry.leaks := by
  have freed {entries : List (UInt64 × Entry)} {rest : Trace} {done : Unit} (h : (freeEntries entries).Runs rest done) :
      rest = entries.flatMap fun entry => entry.2.allocator.returns .registryEntry entry.2.address := by
    induction entries generalizing rest with
    | nil => exact h.1
    | cons entry others ih =>
      rw [freeEntries, Program.runs_bind_iff] at h
      obtain ⟨first, last, _, rfl, hfirst, hlast⟩ := h
      rw [ih hlast, Allocator.returns_of_freeObject sound_registryEntry hfirst, List.flatMap_cons]
  have hempty : registry.remaining = [] ↔ registry.entries.isEmpty := by
    rw [← List.length_eq_zero_iff, length_remaining, size, Std.ExtTreeMap.isEmpty_eq_size_beq_zero, beq_iff_eq]
  rw [leaks, length_remaining, remaining, List.flatMap_map, ← remaining]
  unfold drop at h
  dsimp only at h
  split at h
  case isTrue hnone =>
    rw [if_pos (hempty.2 hnone), List.nil_append]
    exact freed h
  case isFalse hsome =>
    rw [Program.runs_bind_iff] at h
    obtain ⟨first, last, _, rfl, hnotice, hlast⟩ := h
    rw [if_neg fun hn => hsome (hempty.1 hn), Program.runs_notice_iff.1 hnotice, freed hlast]
    rfl

end Registry

/-! ## A device -/

namespace Device

variable {before bridge after : Bridge} {owner : Address} {device : Device} {live : List Object} {trace : Trace}
  {families : List QueueFamily}

/-- What the log is told of command buffers that are left. -/
def mention (device : Device) : Trace :=
  if device.commandBuffers.isEmpty then [] else [⟨.notice (.commandBuffersLeft device.commandBuffers.size), ()⟩]

/-- What a device has left, each kind in the order in which it goes: command buffers whose pools are recorded with what
they were created with, and the entries of just those pools and fences that are live. -/
structure Leaves (device : Device) (before : Bridge) (live : List Object) (owner : Address) : Prop where
  ordered : device.commandBuffers.toList.Pairwise CommandBuffer.Precedes
  wrappers : ∀ pool place, (pool, place) ∈ device.commandBuffers.toList ↔ ∃ wrapper : CommandBuffer,
    before.blocks[place]? = some (.commandBuffer wrapper) ∧ wrapper.device = owner ∧ wrapper.pool = pool
  recorded : ∀ pool place, (pool, place) ∈ device.commandBuffers.toList → ∃ created,
    .pool owner.toHandle pool created ∈ live ∧
      device.pools.get? pool = some (Allocator.merge created device.allocator)
  queues : ∀ family ∈ device.families, family.queues.isSome ↔ family.count ≠ 0
  familyBlock : device.familyBlock.isSome ↔ device.families ≠ []
  poolsOrdered : device.pools.remaining.Pairwise (·.1 < ·.1)
  pools : ∀ pool grant, (pool, grant) ∈ device.pools.remaining → ∃ created,
    .pool owner.toHandle pool created ∈ live ∧ grant.allocator = Allocator.merge created device.allocator
  poolCount : device.pools.remaining.length = live.countP (·.isPoolOf owner.toHandle)
  fencesOrdered : device.fences.remaining.Pairwise (·.1 < ·.1)
  fences : ∀ fence grant, (fence, grant) ∈ device.fences.remaining → ∃ set,
    .fence owner.toHandle fence (some set) ∈ live ∧ grant.allocator = Allocator.merge (some set) device.allocator
  fenceCount : device.fences.remaining.length = live.countP (·.isKeptFenceOf owner.toHandle)

/-- All that is given back when a device goes, in order. -/
def givenBack (device : Device) (owner : Address) : Trace :=
  device.commandBuffers.toList.flatMap (CommandBuffer.unwrapping device.pools) ++
    (QueueFamily.returns device.allocator device.families ++
      device.allocator.returnsArray .queueFamily device.families.length.toUInt64 device.familyBlock) ++
    device.pools.leaks ++ device.fences.leaks ++ device.allocator.returns .device owner

/-- The device is gone with all that belonged to it, and nothing else has changed. -/
structure Gone (before : Bridge) (owner : Address) (device : Device) (after : Bridge) : Prop where
  vacant : ∀ place ∈ owner :: device.parts, after.blocks[place]? = none
  same : before.SameElsewhere after (owner :: device.parts)

theorem Recorded.leaves [Reckoning] (hr : VulkanBridge.Recorded before live) (ha : Agrees before live) (hs : before.Sound)
    (hb : before.blocks[owner]? = some (.device device)) : device.Leaves before live owner := by
  have hsd : device.Sound before owner := hs owner _ hb
  have hreg := hr.registered ha hs hb
  have hrec := hr owner device hb
  have pool_of_entry {pool : NativeHandle} {entry : Registry.Entry} (he : device.pools.entries[pool]? = some entry) :
      ∃ created, .pool owner.toHandle pool created ∈ live ∧
        device.pools.get? pool = some (Allocator.merge created device.allocator) := by
    obtain ⟨created, hlive⟩ := (hreg.pools pool).1 (Registry.contains_iff.2 ⟨entry, he⟩)
    exact ⟨created, hlive, hrec.pools pool created (mem_objectsOf.2 ⟨hlive, rfl⟩)⟩
  refine ⟨CommandBuffer.pairwise_toList _, fun pool place => ?_, fun pool place hm => ?_, hsd.queues, hsd.familyBlock,
    Registry.pairwise_remaining _, fun pool grant hm => ?_, ?_, Registry.pairwise_remaining _, fun fence grant hm => ?_, ?_⟩
  · rw [Std.ExtTreeSet.mem_toList]
    exact hs.mem_commandBuffers_iff hb
  · obtain ⟨entry, he, -⟩ := hsd.entry_of_held (Std.ExtTreeSet.mem_toList.1 hm)
    exact pool_of_entry he
  · obtain ⟨entry, he, rfl⟩ := Option.map_eq_some_iff.1 (Registry.mem_remaining.1 hm)
    obtain ⟨created, hlive, hget⟩ := pool_of_entry he
    rw [Registry.get?, he] at hget
    exact ⟨created, hlive, Option.some.inj hget⟩
  · refine Registry.length_remaining_eq_countP (fun pool => (hreg.pools pool).trans ?_) fun pool =>
      (countP_le_objectsOf fun object hpool => ?_).trans (hrec.onePool pool)
    · constructor
      · rintro ⟨created, hlive⟩
        exact ⟨_, hlive, decide_eq_true rfl, rfl⟩
      · rintro ⟨object, hlive, hpool, rfl⟩
        obtain ⟨found, created, rfl⟩ := Object.eq_of_isPoolOf hpool
        exact ⟨created, hlive⟩
    · obtain ⟨hpool, hfound⟩ := Bool.and_eq_true_iff.1 hpool
      obtain ⟨found, created, rfl⟩ := Object.eq_of_isPoolOf hpool
      exact ⟨hfound, rfl⟩
  · obtain ⟨entry, he, rfl⟩ := Option.map_eq_some_iff.1 (Registry.mem_remaining.1 hm)
    obtain ⟨set, hlive⟩ := (hreg.fences fence).1 (Registry.contains_iff.2 ⟨entry, he⟩)
    have hget := hrec.fences fence (some set) (mem_objectsOf.2 ⟨hlive, rfl⟩)
    rw [Registry.get?, he] at hget
    exact ⟨set, hlive, Option.some.inj hget⟩
  · refine Registry.length_remaining_eq_countP (fun fence => (hreg.fences fence).trans ?_) fun fence =>
      (countP_le_objectsOf fun object hfence => ?_).trans (hrec.oneFence fence)
    · constructor
      · rintro ⟨set, hlive⟩
        exact ⟨_, hlive, decide_eq_true rfl, rfl⟩
      · rintro ⟨object, hlive, hfence, rfl⟩
        obtain ⟨found, set, rfl⟩ := Object.eq_of_isKeptFenceOf hfence
        exact ⟨set, hlive⟩
    · obtain ⟨hfence, hfound⟩ := Bool.and_eq_true_iff.1 hfence
      obtain ⟨found, set, rfl⟩ := Object.eq_of_isKeptFenceOf hfence
      exact ⟨hfound, rfl⟩

theorem sameElsewhere_removeQueues (bridge : Bridge) (families : List QueueFamily) :
    bridge.SameElsewhere (bridge.removeQueues families) (families.filterMap (·.queues)) := by
  induction families generalizing bridge with
  | nil => exact .refl bridge _
  | cons family rest ih =>
    rw [Bridge.removeQueues_cons, List.filterMap_cons]
    cases family.queues with
    | none => exact ih bridge
    | some place => exact (Bridge.SameElsewhere.remove bridge place).trans (ih _)

/-- What giving up its command buffers and then taking its queues and itself away leaves of a device. -/
theorem gone_of_givenUp [Reckoning] {changed : Device}
    (h : CommandBuffer.GivenUp before owner device device.commandBuffers.toList trace bridge changed) :
    Gone before owner device (removed bridge owner changed) := by
  rw [removed, h.regroups.same.families]
  refine ⟨fun place hm => ?_, ?_⟩
  · by_cases howner : place = owner
    · rw [howner]
      exact Bridge.blocks_remove_self
    rw [Bridge.blocks_remove howner]
    obtain hqueue | hwrapper := List.mem_append.1 ((List.mem_cons.1 hm).resolve_left howner)
    · obtain ⟨family, hfamily, hplace⟩ := List.mem_filterMap.1 hqueue
      exact Bridge.blocks_removeQueues hfamily hplace
    · obtain ⟨entry, hentry, rfl⟩ := List.mem_map.1 hwrapper
      exact Bridge.blocks_removeQueues_of_none (h.gone entry hentry)
  · refine ((h.same.trans (sameElsewhere_removeQueues bridge device.families)).trans (.remove _ owner)).mono fun place hm => ?_
    simp only [parts, List.mem_append, List.mem_cons] at hm ⊢
    tauto

/-- What is left of a device goes, each piece through the allocator it came from. -/
theorem runs_dismantle_live [Reckoning] {places : List Address} (hb : before.blocks[owner]? = some (.device device))
    (hs : before.Sound) (ho : before.owned.Occupies places) (h : (dismantle owner device).Runs before trace () after) :
    trace = device.givenBack owner ∧ Gone before owner device after ∧
      ∀ entry ∈ device.pools.remaining ++ device.fences.remaining,
        ∀ exchange ∈ device.commandBuffers.toList.flatMap (CommandBuffer.unwrapping device.pools),
          exchange.returned? ≠ some entry.2.address := by
  have hsd : device.Sound before owner := hs owner _ hb
  have hself := Bridge.put_self hb
  unfold dismantle at h
  simp only [Action.runs_bind_iff, Action.runs_lift_iff, Action.runs_modify_iff] at h
  obtain ⟨freeing, _, drained, between, rfl, hdrain, queues, _, _, _, rfl, ⟨hqueues, rfl⟩, pools, _, _, _, rfl,
    ⟨hpools, rfl⟩, fences, _, _, _, rfl, ⟨hfences, rfl⟩, record, _, _, _, rfl, ⟨hrecord, rfl⟩, rfl, rfl⟩ := h
  obtain ⟨hup, -⟩ := CommandBuffer.runs_drain_live (hself.symm ▸ hs) (hself.symm ▸ ho) hdrain
  rw [List.filter_true] at hup
  have hsame := hup.regroups.same
  rw [hsame.allocator, hsame.families, hsame.familyBlock] at hqueues
  rw [hsame.allocator] at hrecord
  rw [hup.regroups.fences] at hfences
  -- The entries have fewer references by now, but the same blocks.
  have hleaks : drained.pools.leaks = device.pools.leaks := by
    rw [Registry.leaks, Registry.leaks, Registry.remaining_congr hup.regroups.entries]
  have hqueues := QueueFamily.returns_of_freeAll (by rw [hsd.toNat_length]; exact hsd.few) hsd.length_ne_zero
    (fun family hm => (hsd.queues family hm).1) hqueues
  refine ⟨?_, ?_, ?_⟩
  · rw [hup.exchanged, hqueues, Registry.leaks_of_drop hpools, hleaks, Registry.leaks_of_drop hfences,
      Allocator.returns_of_freeObject sound_device hrecord, givenBack]
    simp
  · exact gone_of_givenUp hup
  · intro entry hm
    have hfresh : freeing.Fresh places := by
      refine Trace.fresh_of_unobtained (fun exchange hexchange => ?_) places
      rw [hup.exchanged] at hexchange
      obtain ⟨wrapper, -, hexchange⟩ := List.mem_flatMap.1 hexchange
      exact CommandBuffer.unobtained_unwrapping device.pools wrapper exchange hexchange
    rw [← hup.exchanged]
    refine hup.regroups.spares (hself.symm ▸ ho) hfresh (Multiset.mem_add.2 ?_)
    exact (List.mem_append.1 hm).imp (fun hm => Registry.mem_owned_of_grant? (Registry.mem_remaining.1 hm))
      fun hm => Registry.mem_owned_of_grant? (Registry.mem_remaining.1 hm)

end Device

section Use

variable {history : List Event} {before : Bridge} {owner : Address} {device : Device}

/-- A device is destroyed together with what is left of its children. The native device goes first, in one call. Then all
memory is given back: the records of command buffers by pool and address, through the allocators of their pools; the
queues and the families, through the device's allocator; the entries of pools and then of fences by handle, each through the
allocator it records; and last the device's own record. A registry with entries is warned of once, with the number of pools,
or of fences with callbacks of their own, that were not destroyed. No entry is touched while command buffers are left. -/
theorem device_dismantled (explicit : Option CallbackSet) (h : Attains Event.Distinct history before)
    (hb : before.blocks[owner]? = some (.device device)) :
    (∃ trace after, (Device.destroy (some owner.toHandle) explicit).Runs before trace () after) ∧
    device.Leaves before (liveAfter history) owner ∧
    ∀ trace after, (Device.destroy (some owner.toHandle) explicit).Runs before trace () after →
      trace = Device.destruction device explicit :: (device.mention ++ device.givenBack owner) ∧
      Device.Gone before owner device after ∧
      ∀ entry ∈ device.pools.remaining ++ device.fences.remaining,
        ∀ exchange ∈ device.commandBuffers.toList.flatMap (CommandBuffer.unwrapping device.pools),
          exchange.returned? ≠ some entry.2.address := by
  let _ : Reckoning := ⟨False⟩
  obtain ⟨hs, hr⟩ : Settled history before ∧ Recorded before (liveAfter history) := h.settled_of_distinct id
  refine ⟨?_, Device.Recorded.leaves hr hs.agrees hs.sound hb, fun trace after hrun => ?_⟩
  · obtain ⟨trace, ⟨⟩, after, hrun⟩ := (Device.destroy (some owner.toHandle) explicit).exists_runs before
    exact ⟨trace, after, hrun⟩
  have hrecord : before.record? .device owner.toHandle = some device := Bridge.record?_device_iff.2 ⟨rfl, hb⟩
  unfold Device.destroy at hrun
  dsimp only at hrun
  obtain ⟨_, rfl, hdestroy⟩ := (hs.sound.tagged.tells_resolve hrecord).runs_bind hrun
  dsimp only at hdestroy
  rw [Action.runs_bind_iff] at hdestroy
  obtain ⟨destroying, last, _, _, rfl, hfirst, hrest⟩ := hdestroy
  obtain ⟨hnative, rfl⟩ := Action.runs_lift_iff.1 hfirst
  obtain rfl := Program.runs_native_iff.1 hnative
  have hlast : ∃ rest, last = device.mention ++ rest ∧ (Device.dismantle owner device).Runs before rest () after := by
    rw [Device.mention]
    split at hrest
    case isTrue hnone => exact ⟨last, by rw [if_pos hnone]; rfl, hrest⟩
    case isFalse hsome =>
      rw [Action.runs_bind_iff] at hrest
      obtain ⟨telling, rest, _, _, rfl, htell, hdismantle⟩ := hrest
      obtain ⟨hnotice, rfl⟩ := Action.runs_lift_iff.1 htell
      exact ⟨rest, by rw [if_neg hsome, Program.runs_notice_iff.1 hnotice], hdismantle⟩
  obtain ⟨rest, rfl, hdismantle⟩ := hlast
  obtain ⟨rfl, hgone, hspares⟩ := Device.runs_dismantle_live hb hs.sound hs.occupies hdismantle
  exact ⟨rfl, hgone, hspares⟩

end Use

/-- Five command buffers of two pools go, then the entries of both pools and that of one of two fences. -/
theorem device_dismantled_populous :
    Attains Event.Distinct Sample.populousHistory Sample.populated ∧
    ∃ (device : Device) (trace : Trace) (after : Bridge),
      Sample.populated.blocks[Sample.device.block]? = some (.device device) ∧
      (Device.destroy (some Sample.device) none).Runs Sample.populated trace () after ∧
      device.commandBuffers.toList = [(Sample.lastPool - 1, ⟨245760⟩), (Sample.lastPool - 1, ⟨249856⟩),
        (Sample.lastPool, ⟨233472⟩), (Sample.lastPool, ⟨237568⟩), (Sample.lastPool, ⟨258048⟩)] ∧
      device.pools.remaining.length = 2 ∧ device.fences.remaining.length = 1 ∧
      trace = Device.destruction device none :: (device.mention ++ device.givenBack Sample.device.block) ∧
      Device.Gone Sample.populated Sample.device.block device after := by
  have hdevice : (Sample.populated.record? .device Sample.device).isSome := by decide +kernel
  obtain ⟨device, hrecord⟩ := Option.isSome_iff_exists.1 hdevice
  have hb := (Bridge.record?_device_iff.1 hrecord).2
  have hlists : ∀ found ∈ Sample.populated.record? .device Sample.device,
      found.commandBuffers.toList = [(Sample.lastPool - 1, ⟨245760⟩), (Sample.lastPool - 1, ⟨249856⟩),
        (Sample.lastPool, ⟨233472⟩), (Sample.lastPool, ⟨237568⟩), (Sample.lastPool, ⟨258048⟩)] ∧
      found.pools.remaining.length = 2 ∧ found.fences.remaining.length = 1 := by decide +kernel
  obtain ⟨hwrappers, hpools, hfences⟩ := hlists device hrecord
  obtain ⟨⟨trace, after, hrun⟩, -, hall⟩ := device_dismantled none Sample.attains_populous hb
  obtain ⟨htrace, hgone, -⟩ := hall trace after hrun
  exact ⟨Sample.attains_populous, device, trace, after, hb, hrun, hwrappers, hpools, hfences, htrace, hgone⟩

end VulkanBridge
