import VulkanBridge.Proofs.Gains
import VulkanBridge.Proofs.Loader
import VulkanBridge.Proofs.Tags
/-!
# Freeing lists of command buffers

A list of command buffers is freed batch after batch: the native driver gets one call for a batch, with a null for each
entry that is not a command buffer, and then the records of that batch go back to the allocator of their pool in order.
-/

namespace VulkanBridge

namespace CommandBuffer

variable {bridge after last : Bridge} {owner : Address} {device changed : Device} {pool : NativeHandle}
  {allocator : Allocator} {addresses later : List Address} {trace : Trace} {handle : Option Handle} {places : List Address}

/-! ## What an entry stands for -/

/-- Where the record lies that an entry of a list stands for. A null stands for none, nor does a handle of another kind. -/
def placeAt? (bridge : Bridge) (handle : Option Handle) : Option Address :=
  (at? bridge handle).bind fun _ => handle.map (·.block)

/-- What the log is told of an entry: nothing of a command buffer or a null. -/
def complaints (bridge : Bridge) (handle : Option Handle) : List Notice :=
  if (at? bridge handle).isSome then [] else handle.toList.map (.wrongHandle · .commandBuffer)

theorem tells_resolveEntry (hb : bridge.Tagged) (handle : Option Handle) :
    (resolveEntry handle).Tells bridge (complaints bridge handle)
      ((placeAt? bridge handle).map fun place => (place, nativeOrNull bridge handle)) := by
  cases handle with
  | none => exact Action.tells_pure bridge none
  | some found =>
    rw [complaints, placeAt?, nativeOrNull]
    cases hat : at? bridge (some found) with
    | none => exact ((hb.refuses_iff _).2 hat).tells_resolve.bind (Action.tells_pure bridge none)
    | some record => exact (hb.tells_resolve hat).bind (Action.tells_pure bridge _)

theorem idle_resolveEntry (handle : Option Handle) : (resolveEntry handle).Idle := by
  unfold resolveEntry
  split
  · exact Action.idle_pure none
  · refine .bind (idle_resolve _ _) fun resolved => ?_
    cases resolved with
    | error _ => exact Action.idle_pure none
    | ok _ => exact Action.idle_pure _

theorem nativeOrNull_of_placeAt?_eq_none (h : placeAt? bridge handle = none) : nativeOrNull bridge handle = 0 := by
  cases handle with
  | none => rfl
  | some found =>
    rw [placeAt?] at h
    cases hat : at? bridge (some found) with
    | none => rw [nativeOrNull, hat]; rfl
    | some record => simp [hat] at h

/-! ## Giving records up -/

/-- The records at these places have been given up, and with them the command buffers of the pool that they were for. -/
structure Vacates (bridge : Bridge) (device : Device) (pool : NativeHandle) (addresses : List Address) (after : Bridge)
    (changed : Device) : Prop where
  gains : changed.Gains pool addresses device
  same : bridge.SameElsewhere after addresses
  gone : ∀ address ∈ addresses, after.blocks[address]? = none

namespace Vacates

variable {between : Bridge} {middle : Device}

theorem refl (bridge : Bridge) (hp : device.pools.get? pool = some allocator) :
    Vacates bridge device pool [] bridge device := ⟨.refl hp, .refl bridge [], nofun⟩

theorem trans (hf : Vacates bridge device pool addresses between middle) (hl : Vacates between middle pool later after changed) :
    Vacates bridge device pool (addresses ++ later) after changed where
  gains := (hl.gains.trans hf.gains).perm List.perm_append_comm
  same := hf.same.trans hl.same
  gone address hm := by
    by_cases hlater : address ∈ later
    · exact hl.gone address hlater
    · rw [hl.same.blocks address hlater]
      exact hf.gone address ((List.mem_append.1 hm).resolve_right hlater)

/-- Other entries stand for what they stood for. -/
theorem at?_eq (h : Vacates bridge device pool addresses after changed)
    (hn : ∀ place ∈ placeAt? bridge handle, place ∉ addresses) : at? after handle = at? bridge handle := by
  cases handle with
  | none => rfl
  | some found =>
    have hkept : after.blocks[found.block]? = bridge.blocks[found.block]? ∨
        (after.blocks[found.block]? = none ∧ at? bridge (some found) = none) := by
      by_cases hm : found.block ∈ addresses
      · refine .inr ⟨h.gone _ hm, Option.eq_none_iff_forall_ne_some.2 fun record hat => ?_⟩
        exact hn found.block (by rw [placeAt?, hat]; rfl) hm
      · exact .inl (h.same.blocks _ hm)
    obtain hkept | ⟨hgone, hat⟩ := hkept
    · simp only [at?, Option.bind_some, Bridge.record?, hkept]
    · rw [hat]
      simp only [at?, Option.bind_some, Bridge.record?, hgone, Option.bind_none]

theorem tagged (h : Vacates bridge device pool addresses after changed) (hb : bridge.Tagged) : after.Tagged := by
  intro place block hplace
  by_cases hm : place ∈ addresses
  · rw [h.gone place hm] at hplace
    cases hplace
  · rw [h.same.blocks place hm] at hplace
    exact hb place block hplace

end Vacates

variable [Reckoning]

/-- Records of one pool go back to its allocator in order, one exchange for each. -/
theorem runs_unwrapAll_live (hs : (bridge.put owner (.device device)).Sound)
    (ho : (bridge.put owner (.device device)).owned.Occupies places) (hp : device.pools.get? pool = some allocator)
    (hn : addresses.Nodup) (hm : ∀ address ∈ addresses, (pool, address) ∈ device.commandBuffers)
    (h : (unwrapAll device pool addresses).Runs bridge trace changed after) :
    trace = addresses.flatMap (allocator.returns .commandBuffer) ∧
      (bridge.put owner (.device device)).Keeps owner trace [] (after.put owner (.device changed)) ∧
      Vacates bridge device pool addresses after changed := by
  induction addresses generalizing bridge device trace places with
  | nil =>
    obtain ⟨rfl, rfl, rfl⟩ := Action.runs_pure_iff.1 h
    exact ⟨rfl, hs.keeps_idle Trace.idle_nil owner, .refl bridge hp⟩
  | cons address rest ih =>
    obtain ⟨hout, hn⟩ := List.nodup_cons.1 hn
    obtain ⟨hfirst, hrest⟩ := List.forall_mem_cons.1 hm
    rw [unwrapAll, Action.runs_bind_iff] at h
    obtain ⟨freeing, last, pools, between, rfl, hfree, hlast⟩ := h
    have hsd : device.Sound (bridge.put owner (.device device)) owner := hs owner _ Bridge.blocks_put_self
    obtain ⟨entry, he, -, hpools, hbetween, ht, -⟩ := runs_free hs hfirst hfree
    obtain rfl : entry.allocator = allocator := by
      rw [Registry.get?, he] at hp
      exact Option.some.inj hp
    have hf : freeing.Fresh places := ht ▸ Trace.fresh_of_unobtained (Allocator.unobtained_returns _ _ _) places
    obtain ⟨hk, hr⟩ := free_keeps hs ho hf hfirst hfree
    have hgains : (without device pools (pool, address)).Gains pool [address] device := by
      rw [hpools]
      exact without_gains he (hsd.pools pool entry he).1 hfirst
    have hstep : Vacates bridge device pool [address] between (without device pools (pool, address)) := by
      refine ⟨hgains, hbetween ▸ .remove bridge address, fun other hother => ?_⟩
      rw [List.mem_singleton.1 hother, hbetween]
      exact Bridge.blocks_remove_self
    have hleft : ∀ other ∈ rest, (pool, other) ∈ (without device pools (pool, address)).commandBuffers := by
      intro other hother
      refine mem_erase_iff.2 ⟨?_, hrest other hother⟩
      rintro ⟨⟩
      exact hout hother
    obtain ⟨ht', hk', hv⟩ := ih hk.sound (hk.effect.accounts.occupies ho hf)
      ((hr.allocators pool).trans hp) hn hleft hlast
    exact ⟨by rw [ht, ht', List.flatMap_cons], hk.trans hk', hstep.trans hv⟩

/-! ## One batch after another -/

/-- What is exchanged for one batch: a word on each handle of another kind, one call of the native driver, and then the
return of each record. -/
def freeing (bridge : Bridge) (device pool : NativeHandle) (allocator : Allocator) (batch : List (Option Handle)) : Trace :=
  (batch.flatMap (complaints bridge)).map (⟨.notice ·, ()⟩) ++
    .native (.freeCommandBuffers device pool (batch.map (nativeOrNull bridge))) () ::
      (batch.filterMap (placeAt? bridge)).flatMap (allocator.returns .commandBuffer)

omit [Reckoning] in
theorem freeing_congr {other : Bridge} {batch : List (Option Handle)}
    (h : ∀ entry ∈ batch, at? other entry = at? bridge entry) (device : NativeHandle) :
    freeing other device pool allocator batch = freeing bridge device pool allocator batch := by
  have hwords : batch.flatMap (complaints other) = batch.flatMap (complaints bridge) :=
    List.flatMap_congr fun entry he => by rw [complaints, complaints, h entry he]
  have hnatives : batch.map (nativeOrNull other) = batch.map (nativeOrNull bridge) :=
    List.map_congr_left fun entry he => by rw [nativeOrNull, nativeOrNull, h entry he]
  have hplaces : batch.filterMap (placeAt? other) = batch.filterMap (placeAt? bridge) :=
    List.filterMap_congr fun entry he => by rw [placeAt?, placeAt?, h entry he]
  rw [freeing, freeing, hwords, hnatives, hplaces]

omit [Reckoning] in
theorem fresh_freeing (device : NativeHandle) (batch : List (Option Handle)) (places : List Address) :
    (freeing bridge device pool allocator batch).Fresh places := by
  refine Trace.fresh_of_unobtained (fun exchange hm => ?_) places
  obtain hm | hm := List.mem_append.1 hm
  · obtain ⟨notice, -, rfl⟩ := List.mem_map.1 hm
    rfl
  · obtain rfl | hm := List.mem_cons.1 hm
    · rfl
    · obtain ⟨place, -, hm⟩ := List.mem_flatMap.1 hm
      exact allocator.unobtained_returns _ place exchange hm

theorem runs_freeAlone {batch : List (Option Handle)} (hb : bridge.Tagged) (hs : (bridge.put owner (.device device)).Sound)
    (ho : (bridge.put owner (.device device)).owned.Occupies places) (hp : device.pools.get? pool = some allocator)
    (hn : (batch.filterMap (placeAt? bridge)).Nodup)
    (hm : ∀ place ∈ batch.filterMap (placeAt? bridge), (pool, place) ∈ device.commandBuffers)
    (h : (freeAlone device pool batch).Runs bridge trace changed after) :
    trace = freeing bridge device.native pool allocator batch ∧
      (bridge.put owner (.device device)).Keeps owner trace [] (after.put owner (.device changed)) ∧
      Vacates bridge device pool (batch.filterMap (placeAt? bridge)) after changed := by
  have htells := Action.Tells.mapM fun entry (_ : entry ∈ batch) => tells_resolveEntry hb entry
  have hidle := (Action.Idle.mapM fun entry (_ : entry ∈ batch) => idle_resolveEntry entry) _ _ _ _
    ((htells _ _ _).2 ⟨rfl, rfl, rfl⟩)
  obtain ⟨_, rfl, hrun⟩ := htells.runs_bind h
  rw [Action.runs_bind_iff] at hrun
  obtain ⟨calling, giving, _, between, rfl, hcall, hgive⟩ := hrun
  obtain ⟨hnative, rfl⟩ := Action.runs_lift_iff.1 hcall
  have hplaces : (batch.map fun entry => (placeAt? bridge entry).map fun place => (place, nativeOrNull bridge entry)).filterMap
      (·.map (·.1)) = batch.filterMap (placeAt? bridge) := by
    rw [List.filterMap_map]
    refine List.filterMap_congr fun entry _ => ?_
    cases hplace : placeAt? bridge entry <;> simp [hplace]
  have hnatives : (batch.map fun entry => (placeAt? bridge entry).map fun place => (place, nativeOrNull bridge entry)).map
      (·.elim 0 (·.2)) = batch.map (nativeOrNull bridge) := by
    rw [List.map_map]
    refine List.map_congr_left fun entry _ => ?_
    cases hplace : placeAt? bridge entry with
    | none => simp [hplace, nativeOrNull_of_placeAt?_eq_none hplace]
    | some place => simp [hplace]
  rw [hplaces] at hgive
  rw [hnatives] at hnative
  obtain rfl := Program.runs_native_iff.1 hnative
  -- Nothing is allocated or freed before the records are given back.
  have hcalled := Trace.idle_append_iff.2 ⟨hidle.2, Program.idle_native (fun _ => rfl) _ _ hnative⟩
  have hfresh := Trace.fresh_of_unobtained (fun exchange hm => (hcalled exchange hm).obtained) places
  obtain ⟨rfl, hk, hv⟩ := runs_unwrapAll_live hs ((hcalled.effect _).accounts.occupies ho hfresh) hp hn hm hgive
  refine ⟨by rw [freeing]; simp, ?_, hv⟩
  rw [← List.append_assoc]
  exact (hs.keeps_idle hcalled owner).trans hk

/-- Each batch finds the entries that are left as they were before the first. -/
theorem runs_freeEach {batches : List (List (Option Handle))} (hb : bridge.Tagged)
    (hs : (bridge.put owner (.device device)).Sound) (ho : (bridge.put owner (.device device)).owned.Occupies places)
    (hp : device.pools.get? pool = some allocator) (hn : (batches.flatten.filterMap (placeAt? bridge)).Nodup)
    (hm : ∀ place ∈ batches.flatten.filterMap (placeAt? bridge), (pool, place) ∈ device.commandBuffers)
    (h : (freeEach device pool batches).Runs bridge trace changed after) :
    trace = batches.flatMap (freeing bridge device.native pool allocator) ∧
      Vacates bridge device pool (batches.flatten.filterMap (placeAt? bridge)) after changed := by
  induction batches generalizing bridge device trace places with
  | nil =>
    obtain ⟨rfl, rfl, rfl⟩ := Action.runs_pure_iff.1 h
    exact ⟨rfl, .refl bridge hp⟩
  | cons batch rest ih =>
    rw [List.flatten_cons, List.filterMap_append] at hn hm ⊢
    obtain ⟨hown, hothers, hdisjoint⟩ := List.nodup_append.1 hn
    obtain ⟨hmown, hmothers⟩ := List.forall_mem_append.1 hm
    rw [freeEach, Action.runs_bind_iff] at h
    obtain ⟨first, last, middle, between, rfl, hbatch, hrest⟩ := h
    obtain ⟨rfl, hk, hv⟩ := runs_freeAlone hb hs ho hp hown hmown hbatch
    have hsame : ∀ entry ∈ rest.flatten, at? between entry = at? bridge entry := by
      intro entry he
      refine hv.at?_eq fun place hplace hgone => ?_
      exact hdisjoint place hgone place (List.mem_filterMap.2 ⟨entry, he, hplace⟩) rfl
    have hplaces : rest.flatten.filterMap (placeAt? between) = rest.flatten.filterMap (placeAt? bridge) :=
      List.filterMap_congr fun entry he => by rw [placeAt?, placeAt?, hsame entry he]
    have hlive : ∀ place ∈ rest.flatten.filterMap (placeAt? bridge), (pool, place) ∈ middle.commandBuffers := by
      intro place hplace
      refine ((hv.gains.live _).1 (hmothers place hplace)).resolve_right fun hgone => ?_
      obtain ⟨other, hother, ⟨⟩⟩ := List.mem_map.1 hgone
      exact hdisjoint _ hother _ hplace rfl
    rw [← hplaces] at hothers hlive
    obtain ⟨rfl, hv'⟩ := ih (hv.tagged hb) hk.sound (hk.effect.accounts.occupies ho (fresh_freeing ..))
      ((hv.gains.allocators pool).symm.trans hp) hothers hlive hrest
    rw [hplaces] at hv'
    refine ⟨?_, hv.trans hv'⟩
    rw [List.flatMap_cons, ← hv.gains.native]
    refine congrArg _ (List.flatMap_congr fun other hother => freeing_congr (fun entry he => ?_) _)
    exact hsame entry (List.mem_flatten.2 ⟨other, hother, he⟩)

end CommandBuffer

section Use

variable {history : List Event} {before after : Bridge} {owner : Address} {device : Device} {pool : NativeHandle}
  {allocator : Allocator} {handles : Span (Option Handle)} {trace : Trace}

/-- A list is freed in batches, if those of its entries that are command buffers are distinct and of the pool. Each batch
is one call of the native driver, after which the records go back to the pool's allocator, each in one exchange and in
order. The device loses just these command buffers, and the pool's entry counts as many fewer; all else is as before. -/
theorem freed_in_batches (h : Attains Event.Proper history before)
    (hd : before.blocks[owner]? = some (.device device)) (hp : device.pools.get? pool = some allocator)
    (hn : (handles.toList.filterMap (CommandBuffer.placeAt? before)).Nodup)
    (hm : ∀ place ∈ handles.toList.filterMap (CommandBuffer.placeAt? before), (pool, place) ∈ device.commandBuffers)
    (hr : (CommandBuffer.freeList (some owner.toHandle) pool handles).Runs before trace () after) :
    (∃ groups, Batched Platform.batchSize handles.toList groups ∧
      trace = groups.flatMap (CommandBuffer.freeing before device.native pool allocator)) ∧
    ∃ changed, after.blocks[owner]? = some (.device changed) ∧
      changed.Gains pool (handles.toList.filterMap (CommandBuffer.placeAt? before)) device ∧
      (∀ place ∈ handles.toList.filterMap (CommandBuffer.placeAt? before), after.blocks[place]? = none) ∧
      before.SameElsewhere after (owner :: handles.toList.filterMap (CommandBuffer.placeAt? before)) := by
  let _ : Reckoning := ⟨False⟩
  have hs : Settled history before := h.settled_of_proper id
  unfold CommandBuffer.freeList at hr
  split at hr
  case h_1 hnil =>
    obtain ⟨rfl, -, rfl⟩ := Action.runs_pure_iff.1 hr
    rw [hnil]
    exact ⟨⟨[], batched_batches (by decide) [], rfl⟩, device, hd, .refl hp, nofun, .refl before _⟩
  case h_2 =>
    have hrecord : before.record? .device owner.toHandle = some device := Bridge.record?_device_iff.2 ⟨rfl, hd⟩
    obtain ⟨_, rfl, hfree⟩ := (hs.sound.tagged.tells_resolve hrecord).runs_bind hr
    simp only [Action.runs_bind_iff, Action.runs_modify_iff] at hfree
    obtain ⟨freeing, _, changed, between, rfl, hfree, rfl, rfl⟩ := hfree
    rw [CommandBuffer.freeBatches_eq (batched_batches (by decide) _).small] at hfree
    have hself := Bridge.put_self hd
    have hwhole : (batches Platform.batchSize handles.toList).flatten = handles.toList := flatten_batches (by decide) _
    rw [← hwhole] at hn hm
    obtain ⟨rfl, hv⟩ := CommandBuffer.runs_freeEach hs.sound.tagged (hself.symm ▸ hs.sound) (hself.symm ▸ hs.occupies)
      hp hn hm hfree
    rw [hwhole] at hm hv
    refine ⟨⟨_, batched_batches (by decide) handles.toList, by simp⟩, changed, Bridge.blocks_put_self, hv.gains,
      fun place hplace => ?_, ?_⟩
    · -- The record of a command buffer is not that of its device.
      have hne : place ≠ owner := by
        rintro rfl
        obtain ⟨found, hfound, -⟩ := Device.Sound.commandBuffers (hs.sound _ _ hd) pool place (hm place hplace)
        rw [hd] at hfound
        cases hfound
      exact (Bridge.blocks_put hne).trans (hv.gone place hplace)
    · exact (hv.same.trans (.put between owner _)).mono fun place hplace => by simpa [or_comm] using hplace

end Use

namespace Sample

/-- Thirty-two command buffers, a null before them, and a device and another null among them. -/
def mixed : List (Option Handle) :=
  none :: (List.range 30).map (fun number => some (member number)) ++
    [some device, none, some (member 30), some (member 31)]

/-- Where their records lie. -/
def mixedPlaces : List Address := (Span.present mixed).toList.filterMap (CommandBuffer.placeAt? crowded)

/-- What freeing a list comes to. -/
def freed (handles : List (Option Handle)) : Trace × Unit × Bridge :=
  ((CommandBuffer.freeList (some device) pool (.present handles)).run crowded).play .obliging 0

theorem runs_freed (handles : List (Option Handle)) :
    (CommandBuffer.freeList (some device) pool (.present handles)).Runs crowded (freed handles).1 () (freed handles).2.2 :=
  Program.runs_play .obliging _ _

end Sample

/-- Of thirty-five entries, thirty-two are command buffers; they go in two batches. -/
theorem freed_in_batches_crowd :
    Attains Event.Proper (session .obliging Sample.crowd).1 Sample.crowded ∧
    ∃ (device : Device) (allocator : Allocator),
      Sample.crowded.blocks[Sample.device.block]? = some (.device device) ∧
      device.pools.get? Sample.pool = some allocator ∧ Sample.mixedPlaces.Nodup ∧
      (∀ place ∈ Sample.mixedPlaces, (Sample.pool, place) ∈ device.commandBuffers) ∧ Sample.mixedPlaces.length = 32 ∧
      (∃ groups : List (List (Option Handle)), groups.length = 2 ∧
        (Sample.freed Sample.mixed).1 = groups.flatMap (CommandBuffer.freeing Sample.crowded device.native Sample.pool allocator)) ∧
      ∃ changed : Device, (Sample.freed Sample.mixed).2.2.blocks[Sample.device.block]? = some (.device changed) ∧
        device.pools.references Sample.pool = changed.pools.references Sample.pool + 32 := by
  have hdevice : (Sample.crowded.record? .device Sample.device).isSome := by decide +kernel
  obtain ⟨device, hrecord⟩ := Option.isSome_iff_exists.1 hdevice
  have hd := (Bridge.record?_device_iff.1 hrecord).2
  have hknown : ((Sample.crowded.record? .device Sample.device).bind (·.pools.get? Sample.pool)).isSome := by decide +kernel
  rw [hrecord, Option.bind_some] at hknown
  obtain ⟨allocator, hp⟩ := Option.isSome_iff_exists.1 hknown
  have hn : Sample.mixedPlaces.Nodup := by decide +kernel
  have hm : ∀ place ∈ Sample.mixedPlaces, ∀ found ∈ Sample.crowded.record? .device Sample.device,
      (Sample.pool, place) ∈ found.commandBuffers := by decide +kernel
  have hm' : ∀ place ∈ Sample.mixedPlaces, (Sample.pool, place) ∈ device.commandBuffers :=
    fun place hplace => hm place hplace device hrecord
  have hlength : Sample.mixedPlaces.length = 32 := by decide +kernel
  obtain ⟨⟨groups, hgroups, ht⟩, changed, hleft, hgains, -⟩ :=
    freed_in_batches Sample.attains_crowd hd hp hn hm' (Sample.runs_freed Sample.mixed)
  have hfew : groups.length = 2 := by
    rw [hgroups.few]
    decide +kernel
  exact ⟨Sample.attains_crowd, device, allocator, hd, hp, hn, hm', hlength, ⟨groups, hfew, ht⟩, changed, hleft,
    hlength ▸ hgains.references⟩

end VulkanBridge
