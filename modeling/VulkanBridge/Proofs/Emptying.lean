import VulkanBridge.Proofs.Gains
import VulkanBridge.Proofs.Isolation
import VulkanBridge.Proofs.References
import VulkanBridge.Proofs.Tags
/-!
# Pools that are destroyed with their command buffers

The records of a pool's command buffers go back to the allocator that is recorded for the pool, in ascending order, and
the pool's own entry, which holds that allocator, goes after the last of them (`pool_emptied`). It is still there for each of
them because it counts them besides the pool (`Device.Registered`). Command buffers of other pools keep their records, and
other pools their entries.
-/

namespace VulkanBridge

/-! ## Uses in which handles are not repeated, and the loader writes -/

section Use

variable {history : List Event} {bridge after : Bridge} {live : List Object}

/-- What is recorded for live objects does not depend on the loader's words. -/
theorem Recorded.like (h : Recorded bridge live) (hl : bridge.Like after) : Recorded after live := by
  intro owner device hb
  obtain ⟨header, hold⟩ := hl.symm.device hb
  have hr := h owner _ hold
  exact ⟨hr.onePool, hr.oneFence, hr.pools, hr.fences⟩

theorem Attains.settled_of_distinct [Reckoning] (h : Attains Event.Distinct history bridge) (hn : ¬Reckoning.strict) :
    Settled history bridge ∧ Recorded bridge (liveAfter history) := by
  induction h with
  | initial => exact ⟨⟨.initial, .initial⟩, .initial⟩
  | step _ ha hl ih =>
    obtain ⟨hs, hr⟩ := ih
    have hp := ha.toValid.permitted hs.agrees (ha.bounded hs.agrees hs.sound hr) fun set _ hstrict => absurd hstrict hn
    obtain ⟨owner, natives, ho, hk⟩ := hs.outcome hp ha.fresh hl
    have ht := hs.transition ho hk hp ha.fresh hl
    exact ⟨⟨hs.step ho ha.fresh hk, hs.full.step hs.sound ht⟩, hr.step hs.agrees hs.sound ha.toUnrepeated ho hk⟩
  | @load _ before handle word _ ih =>
    have hl := Bridge.Like.load before handle word
    exact ⟨⟨ih.1.like hl, ih.1.full.like hl⟩, ih.2.like hl⟩

end Use

namespace CommandBuffer

variable {bridge after : Bridge} {owner : Address} {device changed : Device} {pools : Registry} {trace : Trace}
  {entries : List (NativeHandle × Address)} {meant : NativeHandle × Address → Bool} {places : List Address}

/-- What is exchanged when a record is given up: its block goes back to the allocator that is recorded for its pool. -/
def unwrapping (pools : Registry) (entry : NativeHandle × Address) : Trace :=
  (pools.get? entry.1).elim [] (·.returns .commandBuffer entry.2)

theorem unobtained_unwrapping (pools : Registry) (entry : NativeHandle × Address) :
    ∀ exchange ∈ unwrapping pools entry, exchange.obtained? = none := by
  unfold unwrapping
  cases pools.get? entry.1 with
  | none => exact List.forall_mem_nil _
  | some allocator => exact allocator.unobtained_returns _ _

/-- Command buffers were given up in this order: their records, their places in the live set and their references are
gone, and nothing else. -/
structure GivenUp (bridge : Bridge) (owner : Address) (device : Device) (entries : List (NativeHandle × Address))
    [Reckoning] (trace : Trace) (after : Bridge) (changed : Device) : Prop where
  exchanged : trace = entries.flatMap (unwrapping device.pools)
  keeps : (bridge.put owner (.device device)).Keeps owner trace [] (after.put owner (.device changed))
  regroups : device.Regroups trace changed
  same : bridge.SameElsewhere after (entries.map (·.2))
  gone : ∀ entry ∈ entries, after.blocks[entry.2]? = none

variable [Reckoning]

/-- Records go back one after another, each to the allocator of its pool as recorded at the outset. -/
theorem runs_freeAll_live (hs : (bridge.put owner (.device device)).Sound)
    (ho : (bridge.put owner (.device device)).owned.Occupies places) (hn : entries.Nodup)
    (hm : ∀ entry ∈ entries, entry ∈ device.commandBuffers)
    (h : (freeAll device.pools (entries.map (·.2))).Runs bridge trace pools after) :
    GivenUp bridge owner device entries trace after (withoutAll device pools entries) := by
  induction entries generalizing bridge device trace places with
  | nil =>
    obtain ⟨rfl, rfl, rfl⟩ := Action.runs_pure_iff.1 h
    exact ⟨rfl, hs.keeps_idle Trace.idle_nil owner, .refl device, .refl bridge _, nofun⟩
  | cons entry rest ih =>
    obtain ⟨pool, place⟩ := entry
    obtain ⟨hout, hn⟩ := List.nodup_cons.1 hn
    obtain ⟨hfirst, hrest⟩ := List.forall_mem_cons.1 hm
    rw [List.map_cons, freeAll, Action.runs_bind_iff] at h
    obtain ⟨freeing, last, middle, between, rfl, hfree, hlast⟩ := h
    obtain ⟨entry, he, -, -, hbetween, ht, -⟩ := runs_free hs hfirst hfree
    have hunwrapping : freeing = unwrapping device.pools (pool, place) := by
      rw [ht, unwrapping, Registry.get?, he]
      rfl
    have hf : freeing.Fresh places := hunwrapping ▸ Trace.fresh_of_unobtained (unobtained_unwrapping _ _) places
    obtain ⟨hk, hr⟩ := free_keeps hs ho hf hfirst hfree
    have hleft : ∀ other ∈ rest, other ∈ (without device middle (pool, place)).commandBuffers := by
      intro other hother
      refine mem_erase_iff.2 ⟨?_, hrest other hother⟩
      rintro rfl
      exact hout hother
    have hall := ih hk.sound (hk.effect.accounts.occupies ho hf) hn hleft hlast
    refine ⟨?_, hk.trans hall.keeps, hr.trans hall.regroups, ?_, ?_⟩
    · -- What went first has changed a count, but no allocator.
      rw [hall.exchanged, hunwrapping, List.flatMap_cons]
      refine congrArg _ (List.flatMap_congr fun other _ => ?_)
      rw [unwrapping, unwrapping, hr.allocators]
    · exact (Bridge.SameElsewhere.remove bridge place).trans (hbetween ▸ hall.same)
    · have hremoved : between.blocks[place]? = none := hbetween ▸ Bridge.blocks_remove_self
      refine List.forall_mem_cons.2 ⟨?_, hall.gone⟩
      by_cases hagain : place ∈ rest.map (·.2)
      · obtain ⟨other, hother, rfl⟩ := List.mem_map.1 hagain
        exact hall.gone other hother
      · rw [hall.same.blocks place hagain, hremoved]

theorem runs_drain_live (hs : (bridge.put owner (.device device)).Sound)
    (ho : (bridge.put owner (.device device)).owned.Occupies places)
    (h : (drain meant device).Runs bridge trace changed after) :
    GivenUp bridge owner device (device.commandBuffers.toList.filter meant) trace after changed ∧
      elements device.commandBuffers =
        (device.commandBuffers.toList.filter meant : Multiset _) + elements changed.commandBuffers := by
  obtain ⟨pools, hfree, rfl⟩ := runs_drain h
  obtain ⟨hn, hm⟩ := meant_live device meant
  exact ⟨runs_freeAll_live hs ho hn hm hfree, elements_eraseAll hn hm⟩

end CommandBuffer

/-! ## A pool -/

/-- The live command buffers of a device are those that have a record. -/
theorem Bridge.Sound.mem_commandBuffers_iff [Reckoning] {bridge : Bridge} {owner place : Address} {device : Device}
    {pool : NativeHandle} (hs : bridge.Sound) (hb : bridge.blocks[owner]? = some (.device device)) :
    (pool, place) ∈ device.commandBuffers ↔ ∃ wrapper : CommandBuffer,
      bridge.blocks[place]? = some (.commandBuffer wrapper) ∧ wrapper.device = owner ∧ wrapper.pool = pool := by
  constructor
  · intro hm
    obtain ⟨wrapper, hwrapper, -, hpool, hdevice⟩ := Device.Sound.commandBuffers (hs owner _ hb) pool place hm
    exact ⟨wrapper, hwrapper, hdevice, hpool⟩
  · rintro ⟨wrapper, hwrapper, rfl, rfl⟩
    obtain hfalse | hbelongs := hs.owner_or_belongs hwrapper
    · exact hfalse.elim
    · cases hbelongs with
      | commandBuffer hdevice hm _ =>
        obtain ⟨⟩ := Option.some.inj (hb.symm.trans hdevice)
        exact hm

namespace CommandPool

variable {before after : Bridge} {owner place : Address} {device changed : Device} {pool : NativeHandle} {trace : Trace}
  {allocator : Allocator}

/-- Where the records of a pool's command buffers lie, in ascending order. -/
def places (device : Device) (pool : NativeHandle) : List Address := (own device pool).map (·.2)

theorem mem_own {entry : NativeHandle × Address} : entry ∈ own device pool ↔ entry ∈ device.commandBuffers ∧ entry.1 = pool := by
  rw [own, List.mem_filter, Std.ExtTreeSet.mem_toList, CommandBuffer.ofPool_iff]

theorem mem_places : place ∈ places device pool ↔ (pool, place) ∈ device.commandBuffers := by
  constructor
  · intro hm
    obtain ⟨⟨_, _⟩, hentry, rfl⟩ := List.mem_map.1 hm
    obtain ⟨hlive, rfl⟩ := mem_own.1 hentry
    exact hlive
  · intro hm
    exact List.mem_map_of_mem (mem_own.2 ⟨hm, rfl⟩)

theorem pairwise_places (device : Device) (pool : NativeHandle) : (places device pool).Pairwise (·.value < ·.value) := by
  refine List.pairwise_map.2 (List.Pairwise.imp_of_mem ?_ ((CommandBuffer.pairwise_toList _).filter _))
  intro entry other hentry hother hprecedes
  -- Of one pool, so that the addresses decide.
  have hsame : entry.1 = other.1 := (mem_own.1 hentry).2.trans (mem_own.1 hother).2.symm
  obtain hlt | ⟨-, hlt⟩ := hprecedes
  · exact absurd (hsame ▸ hlt) (UInt64.lt_irrefl _)
  · exact hlt

theorem flatMap_unwrapping (hp : device.pools.get? pool = some allocator) :
    (own device pool).flatMap (CommandBuffer.unwrapping device.pools) =
      (places device pool).flatMap (allocator.returns .commandBuffer) := by
  rw [places, List.flatMap_map]
  refine List.flatMap_congr fun entry hm => ?_
  rw [CommandBuffer.unwrapping, (mem_own.1 hm).2, hp]
  rfl

/-- A pool is gone with all of its command buffers, and nothing else has changed. -/
structure Emptied (before : Bridge) (owner : Address) (device : Device) (pool : NativeHandle) (after : Bridge)
    (changed : Device) : Prop where
  left : after.blocks[owner]? = some (.device changed)
  besides : device.Besides changed (some pool) none
  unregistered : changed.pools.contains pool = false
  vacant : ∀ place, (pool, place) ∉ changed.commandBuffers
  gone : ∀ place ∈ places device pool, after.blocks[place]? = none
  same : before.SameElsewhere after (owner :: places device pool)

/-- What draining a pool and forgetting its entry leaves. -/
theorem emptied_of_givenUp [Reckoning] {between : Bridge} (hs : before.Sound) (hb : before.blocks[owner]? = some (.device device))
    (hup : CommandBuffer.GivenUp before owner device (own device pool) trace between changed)
    (hleft : elements changed.commandBuffers = (elements device.commandBuffers).filter (·.1 ≠ pool)) :
    Emptied before owner device pool
      (between.put owner (.device { changed with pools := changed.pools.forget pool }))
      { changed with pools := changed.pools.forget pool } := by
  have hmem (other : NativeHandle) (place : Address) :
      (other, place) ∈ changed.commandBuffers ↔ (other, place) ∈ device.commandBuffers ∧ other ≠ pool := by
    rw [← mem_elements, hleft, Multiset.mem_filter, mem_elements]
  have hbesides : device.Besides changed (some pool) none :=
    hup.regroups.besides fun other place hne => (hmem other place).trans (and_iff_left fun he => hne (congrArg some he))
  refine ⟨Bridge.blocks_put_self, ?_, ?_, fun place hm => ((hmem pool place).1 hm).2 rfl, fun place hm => ?_, ?_⟩
  · have hsame := hbesides.toSameDevice
    refine ⟨⟨hsame.header, hsame.native, hsame.allocator, hsame.families, hsame.familyBlock⟩, fun other hne => ?_,
      hbesides.fences, hbesides.commandBuffers⟩
    rw [← hbesides.pools other hne]
    exact Registry.entries_forget fun he => hne (congrArg some he)
  · exact Registry.contains_eq_false_iff.2 Registry.entries_forget_self
  · obtain ⟨entry, hentry, rfl⟩ := List.mem_map.1 hm
    rw [Bridge.blocks_put, hup.gone entry hentry]
    -- The record of a command buffer is not that of its device.
    rintro rfl
    obtain ⟨found, hfound, -⟩ := Device.Sound.commandBuffers (hs _ _ hb) entry.1 entry.2 (mem_own.1 hentry).1
    rw [hb] at hfound
    cases hfound
  · exact (hup.same.trans (.put between owner _)).mono fun place hm => by simpa [places, or_comm] using hm

/-- A pool of which nothing is counted but itself and its command buffers goes with its entry. The run is one call of the
native driver, the draining, and the release of the entry. -/
theorem emptied_of_destroy [Reckoning] {explicit : Option CallbackSet} {entry : Registry.Entry} {occupied : List Address}
    (hs : before.Sound) (ho : before.owned.Occupies occupied) (hb : before.blocks[owner]? = some (.device device))
    (hz : pool ≠ 0) (he : device.pools.entries[pool]? = some entry) (hcount : entry.references.toNat = device.held pool + 1)
    (hrun : (destroy (some owner.toHandle) pool explicit).Runs before trace () after) :
    trace = destruction device pool explicit :: ((places device pool).flatMap (entry.allocator.returns .commandBuffer) ++
      entry.allocator.returns .registryEntry entry.address) ∧
    ∃ changed, Emptied before owner device pool after changed := by
  have hknown : device.pools.get? pool = some entry.allocator := Registry.get?_eq_some_iff.2 ⟨entry, he, rfl⟩
  have hrecord : before.record? .device owner.toHandle = some device := Bridge.record?_device_iff.2 ⟨rfl, hb⟩
  unfold destroy at hrun
  rw [if_neg hz] at hrun
  obtain ⟨_, rfl, hrun⟩ := (hs.tagged.tells_resolve hrecord).runs_bind hrun
  simp only [Action.runs_bind_iff, Action.runs_lift_iff, Action.runs_modify_iff] at hrun
  obtain ⟨_, _, _, _, rfl, ⟨hdestroy, rfl⟩, draining, _, drained, between, rfl, hdrain, releasing, _, pools, _, rfl,
    ⟨hrelease, rfl⟩, rfl, rfl⟩ := hrun
  obtain rfl := Program.runs_native_iff.1 hdestroy
  have hself := Bridge.put_self hb
  obtain ⟨hup, hrest⟩ := CommandBuffer.runs_drain_live (hself.symm ▸ hs) (hself.symm ▸ ho) hdrain
  have hleft := elements_without_own hrest
  -- What is left of the pool's references is its own.
  obtain ⟨last, hlast, hgrant⟩ : ∃ last, drained.pools.entries[pool]? = some last ∧ last.grant = entry.grant :=
    Option.map_eq_some_iff.1 ((hup.regroups.entries pool).trans (Registry.grant?_of_some he))
  have hone : last.references = 1 := by
    have hheld : drained.held pool = 0 := by
      rw [Device.held, hleft, Multiset.countP_eq_zero]
      exact fun _ hm => (Multiset.mem_filter.1 hm).2
    have := hup.regroups.surplus pool
    rw [Registry.references_of_some hlast, Registry.references_of_some he] at this
    exact UInt32.toNat_inj.1 (by rw [UInt32.toNat_one]; omega)
  obtain ⟨hnone, -, -⟩ | ⟨found, hfound, ⟨-, rfl, hfreed⟩ | ⟨hmore, -, -⟩⟩ := Registry.runs_release hrelease
  · rw [hlast] at hnone
    cases hnone
  · obtain rfl := Option.some.inj (hlast.symm.trans hfound)
    obtain ⟨haddress, hsame, -⟩ := Grant.mk.inj hgrant
    have hreleasing := Allocator.returns_of_freeObject Registry.sound_registryEntry hfreed
    rw [haddress, hsame] at hreleasing
    refine ⟨?_, { drained with pools := drained.pools.forget pool }, emptied_of_givenUp hs hb hup hleft⟩
    rw [hup.exchanged, ← flatMap_unwrapping hknown, hreleasing]
    simp [destruction, own]
  · have : found.references = 1 := Option.some.inj (hlast.symm.trans hfound) ▸ hone
    exact absurd this hmore

end CommandPool

section Use

variable {history : List Event} {before : Bridge} {owner : Address} {device : Device} {pool : NativeHandle}
  {created : Option CallbackSet}

/-- A pool is destroyed together with the command buffers that are left of it. The native pool goes first, in one call;
then the record of each command buffer, in ascending order; and last the pool's entry. All of these go back to the
allocator that the pool was created with. No command buffer of the pool is live afterwards, nor is the pool known, while
other pools and their command buffers are what they were. -/
theorem pool_emptied (explicit : Option CallbackSet) (h : Attains Event.Distinct history before)
    (hb : before.blocks[owner]? = some (.device device)) (hz : pool ≠ 0) (hl : .pool owner.toHandle pool created ∈ liveAfter history) :
    (∃ trace after, (CommandPool.destroy (some owner.toHandle) pool explicit).Runs before trace () after) ∧
    (CommandPool.places device pool).Pairwise (·.value < ·.value) ∧
    (∀ place, place ∈ CommandPool.places device pool ↔ ∃ wrapper : CommandBuffer,
      before.blocks[place]? = some (.commandBuffer wrapper) ∧ wrapper.device = owner ∧ wrapper.pool = pool) ∧
    ∀ trace after, (CommandPool.destroy (some owner.toHandle) pool explicit).Runs before trace () after →
      ∃ entry, device.pools.entries[pool]? = some entry ∧ entry.allocator = Allocator.merge created device.allocator ∧
        trace = CommandPool.destruction device pool explicit ::
          ((CommandPool.places device pool).flatMap (entry.allocator.returns .commandBuffer) ++
            entry.allocator.returns .registryEntry entry.address) ∧
        ∃ changed, CommandPool.Emptied before owner device pool after changed := by
  let _ : Reckoning := ⟨False⟩
  obtain ⟨hs, hr⟩ : Settled history before ∧ Recorded before (liveAfter history) := h.settled_of_distinct id
  refine ⟨?_, CommandPool.pairwise_places device pool,
    fun _ => CommandPool.mem_places.trans (hs.sound.mem_commandBuffers_iff hb), fun trace after hrun => ?_⟩
  · obtain ⟨trace, ⟨⟩, after, hrun⟩ := (CommandPool.destroy (some owner.toHandle) pool explicit).exists_runs before
    exact ⟨trace, after, hrun⟩
  have hknown : device.pools.get? pool = some (Allocator.merge created device.allocator) :=
    (hr owner device hb).pools pool created (mem_objectsOf.2 ⟨hl, rfl⟩)
  obtain ⟨entry, he, hallocator⟩ := Registry.get?_eq_some_iff.1 hknown
  have hcount := (hr.registered hs.agrees hs.sound hb).references pool _ (Registry.references?_eq_some_iff.2 ⟨entry, he, rfl⟩)
  obtain ⟨htrace, hemptied⟩ :=
    CommandPool.emptied_of_destroy hs.sound hs.occupies hb hz he (hcount.trans (Nat.add_comm ..)) hrun
  exact ⟨entry, he, hallocator, htrace, hemptied⟩

end Use

/-! ## The last two pools there can be -/

namespace Sample

/-- Pools get the two highest handles there are; all goes well. -/
def brimming : Environment
  | number, .native (.createPool ..) => .ok (if number < 54 then 0xFFFFFFFFFFFFFFFF else 0xFFFFFFFFFFFFFFFE)
  | number, request => Environment.obliging number request

def lastPool : NativeHandle := 0xFFFFFFFFFFFFFFFF

/-- A device with the two pools, one of them with callbacks of its own, and with command buffers of either that were
allocated in turn; and two fences, one with callbacks of its own. -/
def populous : List Call :=
  [.createFence (some device) (some ⟨0⟩) none, .createFence (some device) (some ⟨0⟩) (some (callbacks 4)),
   .allocateCommandBuffers (some device) (some ⟨lastPool, 0, 1⟩),
   .allocateCommandBuffers (some device) (some ⟨lastPool - 1, 0, 2⟩),
   .allocateCommandBuffers (some device) (some ⟨lastPool, 0, 2⟩),
   .createPool (some device) (some ⟨0, 0⟩) none,
   .createPool (some device) (some ⟨0, 0⟩) (some (callbacks 3))] ++ calls.drop 4

/-- The events of these calls. -/
def populousHistory : List Event := (session brimming populous).1

/-- The state that they lead to. -/
@[irreducible] def populated : Bridge := (session brimming populous).2

theorem attains_populous : Attains Event.Distinct populousHistory populated := by
  unfold populated
  exact ((reaches_session brimming (by decide +kernel)).mono fun _ _ => Event.DistinctForSure.distinct).attains

end Sample

/-- The pool of the highest handle goes with its three command buffers. Two of the other pool lie between their records,
and stay. -/
theorem pool_emptied_last :
    Attains Event.Distinct Sample.populousHistory Sample.populated ∧ Sample.lastPool ≠ 0 ∧
    .pool Sample.device Sample.lastPool (some (Sample.callbacks 3)) ∈ liveAfter Sample.populousHistory ∧
    ∃ (device : Device) (entry : Registry.Entry) (trace : Trace) (after : Bridge) (changed : Device),
      Sample.populated.blocks[Sample.device.block]? = some (.device device) ∧
      (CommandPool.destroy (some Sample.device) Sample.lastPool none).Runs Sample.populated trace () after ∧
      trace = CommandPool.destruction device Sample.lastPool none ::
        ([⟨233472⟩, ⟨237568⟩, ⟨258048⟩].flatMap (entry.allocator.returns .commandBuffer) ++
          entry.allocator.returns .registryEntry entry.address) ∧
      (Sample.lastPool - 1, ⟨245760⟩) ∈ changed.commandBuffers ∧
      CommandPool.Emptied Sample.populated Sample.device.block device Sample.lastPool after changed := by
  have hz : Sample.lastPool ≠ 0 := by decide +kernel
  have hlive : .pool Sample.device Sample.lastPool (some (Sample.callbacks 3)) ∈ liveAfter Sample.populousHistory := by
    decide +kernel
  have hdevice : (Sample.populated.record? .device Sample.device).isSome := by decide +kernel
  obtain ⟨device, hrecord⟩ := Option.isSome_iff_exists.1 hdevice
  have hb := (Bridge.record?_device_iff.1 hrecord).2
  have hplaces : ∀ found ∈ Sample.populated.record? .device Sample.device,
      CommandPool.places found Sample.lastPool = [⟨233472⟩, ⟨237568⟩, ⟨258048⟩] ∧
        (Sample.lastPool - 1, ⟨245760⟩) ∈ found.commandBuffers := by decide +kernel
  obtain ⟨hplaces, hother⟩ := hplaces device hrecord
  obtain ⟨⟨trace, after, hrun⟩, -, -, hall⟩ := pool_emptied none Sample.attains_populous hb hz hlive
  obtain ⟨entry, -, -, htrace, changed, hemptied⟩ := hall trace after hrun
  rw [hplaces] at htrace
  have hstays := (hemptied.besides.commandBuffers (Sample.lastPool - 1) ⟨245760⟩ (by decide +kernel)).2 hother
  exact ⟨Sample.attains_populous, hz, hlive, device, entry, trace, after, changed, hb, hrun, htrace, hstays, hemptied⟩

end VulkanBridge
