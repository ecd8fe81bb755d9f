import VulkanBridge.Proofs.Natives
import VulkanBridge.Proofs.OwnedMemory
import VulkanBridge.Proofs.Recorded
/-!
# Lifetimes of native objects

The callbacks that a native object is destroyed with are put together anew, by a second merge, from what the call passes
and what is on record: the record of an instance or a device, the registry's entry of a pool or a fence, or the allocator of
the device. They come to the same functions as those of the creation (`Outcome.pairs`). So whatever the native driver
obtains through callbacks goes back through callbacks of the same allocator, and whoever is told of an internal allocation is
told of its end (`natives_balanced`).
-/

namespace VulkanBridge

/-! ## Complete allocators -/

namespace Allocator

variable {allocator parent : Allocator} {explicit passed : Option CallbackSet}

/-- Callbacks of the allocator are complete. -/
def Complete (allocator : Allocator) : Prop := ∀ callbacks ∈ allocator.callbacks?, callbacks.Complete

theorem complete_system : system.Complete := nofun

theorem Complete.internal (h : allocator.Complete) : ∀ told ∈ allocator.internal?, told.allocation.isSome := by
  intro told ht
  obtain ⟨callbacks, hc, ht⟩ := Option.bind_eq_some_iff.1 ht
  exact (h callbacks hc).told told ht

/-- A pair of notifications is only taken over together with its first function. -/
theorem complete_merge (hp : parent.Complete) (he : ∀ set ∈ explicit, set.free.isSome) : (merge explicit parent).Complete := by
  cases explicit with
  | none => exact hp
  | some set =>
    rintro _ ⟨rfl⟩
    refine ⟨he set rfl, fun told ht => ?_⟩
    dsimp only at ht
    split at ht
    case isTrue hi =>
      cases ht
      exact hi
    case isFalse => exact hp.internal told ht

/-- To pass nothing, or again what was passed, changes nothing. -/
theorem merge_passed (h : passed = none ∨ passed = explicit) (parent : Allocator) :
    merge passed (merge explicit parent) = merge explicit parent := by
  obtain rfl | rfl := h
  · rfl
  · exact merge_merge passed parent

/-- What the native driver is handed stands for the allocator's callbacks. -/
theorem map_target_nativeCallbacks (allocator : Allocator) (context : CallbackContext) :
    (allocator.nativeCallbacks context).map (·.target) = allocator.callbacks? := by
  cases allocator <;> rfl

theorem Complete.handed (h : allocator.Complete) (context : CallbackContext) :
    ∀ handed ∈ allocator.nativeCallbacks context, handed.target.Complete := by
  intro handed hh
  refine h handed.target ?_
  rw [← allocator.map_target_nativeCallbacks context]
  exact Option.mem_map_of_mem _ hh

end Allocator

/-! ## Native objects of live objects -/

theorem filterMap_eq_zero {α β : Type} {f : α → Option β} {items : Multiset α} (h : ∀ item ∈ items, f item = none) :
    items.filterMap f = 0 := by
  induction items using Multiset.induction_on with
  | empty => rfl
  | cons item rest ih =>
    rw [Multiset.filterMap_cons_none item rest (h item (Multiset.mem_cons_self ..))]
    exact ih fun other hm => h other (Multiset.mem_cons_of_mem hm)

/-- The native handle and the allocator of an instance or a device. -/
def Block.base? : Block → Option (NativeHandle × Allocator)
  | inst record => some (record.native, record.allocator)
  | device record => some (record.native, record.allocator)
  | _ => none

/-- The native handle and the allocator of the instance or device at an address. -/
def Bridge.base? (bridge : Bridge) (address : Address) : Option (NativeHandle × Allocator) :=
  bridge.blocks[address]?.bind (·.base?)

/-- The native object of an object, with the callbacks it was created with, if it goes with this handle and allocator. -/
def Object.native? (base : NativeHandle × Allocator) : Object → Option (NativeObject × Option Callbacks)
  | inst .. => some (.inst base.1, base.2.callbacks?)
  | device .. => some (.device base.1, base.2.callbacks?)
  | pool _ handle explicit => some (.pool base.1 handle, (Allocator.merge explicit base.2).callbacks?)
  | commandBuffer .. => none
  | fence _ handle explicit => some (.fence base.1 handle, (Allocator.merge explicit base.2).callbacks?)

/-- The native object of a live object. -/
def Bridge.native? (bridge : Bridge) (object : Object) : Option (NativeObject × Option Callbacks) :=
  (bridge.base? object.owner.block).bind object.native?

/-- The native objects of the live objects. -/
def Bridge.roster (bridge : Bridge) (live : List Object) : Roster := (live.filterMap bridge.native? : List _)

namespace Bridge

variable {bridge after : Bridge} {live live' : List Object} {owner address : Address} {object : Object}
  {entry : NativeObject × Option Callbacks}

theorem base?_of_some {block : Block} (h : bridge.blocks[address]? = some block) : bridge.base? address = block.base? := by
  rw [base?, h, Option.bind_some]

theorem found_of_put {block : Block} (h : after = bridge.put owner block) : after.blocks[owner]? = some block :=
  h ▸ blocks_put_self

theorem native?_of_device {record : Device} (h : bridge.blocks[owner]? = some (.device record))
    (ho : object.owner = owner.toHandle) : bridge.native? object = object.native? (record.native, record.allocator) := by
  rw [native?, ho, Address.toHandle, base?_of_some h]
  rfl

theorem native?_of_inst {record : Instance} (h : bridge.blocks[owner]? = some (.inst record))
    (ho : object.owner = owner.toHandle) : bridge.native? object = object.native? (record.native, record.allocator) := by
  rw [native?, ho, Address.toHandle, base?_of_some h]
  rfl

theorem roster_cons (h : bridge.native? object = some entry) :
    bridge.roster (object :: live) = entry ::ₘ bridge.roster live := by
  rw [roster, List.filterMap_cons_some h]
  rfl

theorem mem_roster (hm : object ∈ live) (h : bridge.native? object = some entry) : entry ∈ bridge.roster live :=
  Multiset.mem_coe.2 (List.mem_filterMap.2 ⟨object, hm, h⟩)

theorem roster_of_native? (h : after.native? = bridge.native?) (live : List Object) : after.roster live = bridge.roster live := by
  rw [roster, roster, h]

/-- Only objects that change matter. -/
theorem roster_congr (h : ∀ object ∈ live, after.native? object = bridge.native? object) :
    after.roster live = bridge.roster live :=
  congrArg _ (List.filterMap_congr h)

/-- Objects without a native object do not matter. -/
theorem roster_filter {p : Object → Bool} (h : ∀ object ∈ live, p object = false → bridge.native? object = none) :
    bridge.roster (live.filter p) = bridge.roster live := by
  rw [roster, List.filterMap_filter]
  refine congrArg _ (List.filterMap_congr fun object hm => ?_)
  cases hp : p object with
  | true => rfl
  | false => exact (h object hm hp).symm

theorem roster_eq_zero (h : ∀ object ∈ live, bridge.native? object = none) : bridge.roster live = 0 := by
  rw [roster, List.filterMap_eq_nil_iff.2 h]
  rfl

theorem roster_append (first last : List Object) : bridge.roster (first ++ last) = bridge.roster first + bridge.roster last := by
  rw [roster, List.filterMap_append]
  rfl

/-- What is found of a live object does not depend on whether physical devices have been listed. -/
theorem roster_map_list (handle : Handle) (capacity : UInt32) :
    bridge.roster (live.map (·.list handle capacity)) = bridge.roster live := by
  rw [roster, List.filterMap_map]
  refine congrArg _ (List.filterMap_congr fun object _ => ?_)
  cases object <;> rfl

theorem roster_of_coe_eq (h : (live : Multiset Object) = object ::ₘ (live' : List Object))
    (he : bridge.native? object = some entry) : bridge.roster live = entry ::ₘ bridge.roster live' := by
  rw [← roster_cons he]
  exact Multiset.coe_eq_coe.2 ((Multiset.coe_eq_coe.1 h).filterMap _)

/-- With a pool goes its native pool. -/
theorem roster_without_pool {record : Device} {pool : NativeHandle} {explicit : Option CallbackSet}
    {rest : List Object} (hfound : bridge.blocks[owner]? = some (.device record))
    (ho : object = .pool owner.toHandle pool explicit) (he : (live : Multiset Object) = object ::ₘ (rest : List Object)) :
    bridge.roster live = (.pool record.native pool, (Allocator.merge explicit record.allocator).callbacks?) ::ₘ
      bridge.roster (rest.filter fun object => !(object.isCommandBuffer pool && object.owner = owner.toHandle)) := by
  rw [roster_filter]
  · exact roster_of_coe_eq he (by rw [ho, native?_of_device hfound rfl]; rfl)
  · intro other hm hp
    cases other <;> simp_all [Object.isCommandBuffer, native?, Object.native?]

/-- All native objects of one owner go, together with the objects. -/
theorem roster_filter_owner (owner : Address) {p : Object → Bool}
    (hp : ∀ object ∈ live, p object = true ↔ object.owner ≠ owner.toHandle)
    (hb : ∀ object ∈ live, object.owner ≠ owner.toHandle → after.native? object = bridge.native? object)
    (he : (objectsOf owner.toHandle live).filterMap bridge.native? = {entry}) :
    bridge.roster live = entry ::ₘ after.roster (live.filter p) := by
  -- What stays is of other owners, which keep their native objects; so only what goes is to be counted.
  have hrest : after.roster (live.filter p) = bridge.roster (live.filter p) :=
    roster_congr fun object hm =>
      have ⟨hm, hpo⟩ := List.mem_filter.1 hm
      hb object hm ((hp object hm).1 hpo)
  have hothers : ((live.filter p : List Object) : Multiset Object) =
      (live : Multiset Object).filter fun object => ¬object.owner = owner.toHandle := by
    rw [Multiset.filter_coe]
    exact congrArg _ (List.filter_congr fun object hm => Bool.eq_iff_iff.2 (by simp [hp object hm]))
  have hlive : bridge.roster live = (live : Multiset Object).filterMap bridge.native? := rfl
  rw [hrest, hlive, ← Multiset.filter_add_not (fun object : Object => object.owner = owner.toHandle) (live : Multiset Object),
    Multiset.filterMap_add, ← hothers]
  exact congrArg (· + _) he

variable [Reckoning] {trace natives : Trace}

/-- A call that deals with one owner leaves the others as they are. -/
theorem Keeps.base?_ne (hk : bridge.Keeps owner trace natives after) (hne : address ≠ owner) :
    after.base? address = bridge.base? address := by
  have hothers {block : Block} (ho : block.IsOwner) := hk.others address block hne ho
  have apart {found : Option Block} (h : ¬∃ block, found = some block ∧ block.IsOwner) : found.bind (·.base?) = none := by
    cases found with
    | none => rfl
    | some block => cases block <;> first | rfl | exact absurd ⟨_, rfl, trivial⟩ h
  by_cases h : ∃ block, bridge.blocks[address]? = some block ∧ block.IsOwner
  · obtain ⟨block, hb, ho⟩ := h
    rw [base?_of_some hb, base?_of_some ((hothers ho).2 hb)]
  · have h' : ¬∃ block, after.blocks[address]? = some block ∧ block.IsOwner :=
      fun ⟨block, hb, ho⟩ => h ⟨block, (hothers ho).1 hb, ho⟩
    rw [base?, base?, apart h, apart h']

theorem Keeps.native?_ne (hk : bridge.Keeps owner trace natives after) (ho : object.owner = address.toHandle)
    (hne : object.owner ≠ owner.toHandle) : after.native? object = bridge.native? object := by
  have hne : address ≠ owner := fun heq => hne (by rw [ho, heq])
  rw [native?, native?, ho, Address.toHandle, hk.base?_ne hne]

/-- Where the owner keeps its native handle and its allocator, all native objects stay. -/
theorem Keeps.native?_eq (hk : bridge.Keeps owner trace natives after) (hself : after.base? owner = bridge.base? owner) :
    after.native? = bridge.native? := by
  funext object
  rw [native?, native?]
  by_cases he : object.owner.block = owner
  · rw [he, hself]
  · rw [hk.base?_ne he]

end Bridge

/-! ## Creations and destructions in traces -/

namespace Trace

variable {trace natives : Trace} {roster roster' : Roster} {exchange : Exchange} {object : NativeObject}
  {allocator : Allocator} {context : CallbackContext}

/-- The first object that a trace creates is not there yet. -/
def New (roster : Roster) (trace : Trace) : Prop :=
  ∀ exchange rest object callbacks, trace.lifecycle = exchange :: rest →
    exchange.dealing? = some (.created object callbacks) → object ∉ roster.map Prod.fst

/-- Only exchanges about native objects count. -/
theorem pairs_of_lifecycle (h : trace.lifecycle = natives) (hp : Takes Exchange.Pairs roster natives roster') :
    Takes Exchange.Pairs roster trace roster' := by
  rw [← h] at hp
  exact (Takes.filter_iff fun _ => Exchange.pairs_of_not_lifecycle).1 hp

theorem pairs_of_created (h : trace.lifecycle = [exchange])
    (hd : exchange.dealing? = some (.created object (allocator.nativeCallbacks context))) (hn : trace.New roster)
    (hc : allocator.Complete) : Takes Exchange.Pairs roster trace ((object, allocator.callbacks?) ::ₘ roster) := by
  refine pairs_of_lifecycle h ⟨_, ?_, rfl⟩
  rw [Exchange.Pairs, hd, ← allocator.map_target_nativeCallbacks context]
  exact ⟨hn _ _ _ _ h hd, hc.handed context, rfl⟩

theorem pairs_of_refused (h : trace.lifecycle = [exchange])
    (hd : exchange.dealing? = some (.refused (allocator.nativeCallbacks context))) (hc : allocator.Complete) :
    Takes Exchange.Pairs roster trace roster := by
  refine pairs_of_lifecycle h ⟨_, ?_, rfl⟩
  rw [Exchange.Pairs, hd]
  exact ⟨hc.handed context, rfl⟩

theorem pairs_of_destroyed (h : trace.lifecycle = [exchange])
    (hd : exchange.dealing? = some (.destroyed object (allocator.nativeCallbacks context))) :
    Takes Exchange.Pairs ((object, allocator.callbacks?) ::ₘ roster) trace roster := by
  refine pairs_of_lifecycle h ⟨_, ?_, rfl⟩
  rw [Exchange.Pairs, hd, ← allocator.map_target_nativeCallbacks context]

/-- A creation that fails leaves no object behind, unless it leaves one that cannot be destroyed. -/
theorem pairs_of_abandons {create : Except FailureCode NativeHandle → Exchange} {destroy : NativeHandle → Exchange}
    {leaked : NativeHandle → Prop} (made : NativeHandle → NativeObject) (h : trace.lifecycle = natives)
    (ha : Abandons create destroy leaked natives)
    (hcreate : ∀ native, (create (.ok native)).dealing? = some (.created (made native) (allocator.nativeCallbacks context)))
    (hrefuse : ∀ code, (create (.error code)).dealing? = some (.refused (allocator.nativeCallbacks context)))
    (hdestroy : ∀ native, (destroy native).dealing? = some (.destroyed (made native) (allocator.nativeCallbacks context)))
    (hleaked : ∀ native, ¬leaked native) (hn : trace.New roster) (hc : allocator.Complete) :
    Takes Exchange.Pairs roster trace roster := by
  cases ha with
  | unasked => exact pairs_of_lifecycle h rfl
  | refused code => exact pairs_of_refused h (hrefuse code) hc
  | undone native =>
    -- The object comes and goes within the trace, both times with this allocator.
    have hnew := hn _ _ _ _ h (hcreate native)
    refine pairs_of_lifecycle h ⟨(made native, allocator.callbacks?) ::ₘ roster, ?_, roster, ?_, rfl⟩
    · rw [Exchange.Pairs, hcreate, ← allocator.map_target_nativeCallbacks context]
      exact ⟨hnew, hc.handed context, rfl⟩
    · rw [Exchange.Pairs, hdestroy, ← allocator.map_target_nativeCallbacks context]
  | leaked hl => exact absurd hl (hleaked _)

end Trace

/-! ## Orderly events -/

/-- The object is the one that the call destroys. -/
def Call.destroys : Call → Object → Bool
  | destroyInstance (some handle) _, .inst found .. => found = handle
  | destroyDevice (some handle) _, .device found .. => found = handle
  | destroyPool (some handle) native _, .pool device found _ => found = native && device = handle
  | destroyFence (some handle) native _, .fence device found _ => found = native && device = handle
  | _, _ => false

/-- The callbacks that are passed to destroy an object. -/
def Call.passed? : Call → Option CallbackSet
  | destroyInstance _ passed | destroyDevice _ passed | destroyPool _ _ passed | destroyFence _ _ passed => passed
  | _ => none

/-- The callbacks that were passed to create the object. -/
def Object.explicit? : Object → Option CallbackSet
  | inst _ explicit _ | device _ explicit _ | pool _ _ explicit | fence _ _ explicit => explicit
  | commandBuffer .. => none

/-- The object has to go before its device. -/
def Object.isChild : Object → Bool
  | pool .. | fence .. => true
  | _ => false

/-- The event destroys live objects in order, and with the callbacks that they were created with, or none. -/
structure Event.Tidy (live : List Object) (event : Event) : Prop where
  passed : ∀ object ∈ live, event.call.destroys object →
    event.call.passed? = none ∨ event.call.passed? = object.explicit?
  childless : ∀ handle passed, event.call = .destroyDevice (some handle) passed →
    ∀ object ∈ live, object.owner = handle → ¬object.isChild
  fence : ∀ handle fence passed, event.call = .destroyFence (some handle) fence passed → fence ≠ 0 →
    ∃ object ∈ live, object.isFence fence ∧ object.owner = handle
  /-- The native driver can destroy instances and devices. -/
  provided : ∀ native, .noDestroyInstance native ∉ event.trace ∧ .noDestroyDevice native ∉ event.trace

/-! ## What outcomes do to native objects -/

/-- A creation that fails leaves no native object behind. -/
theorem Trace.Futile.pairs {bridge : Bridge} {explicit : Option CallbackSet} {trace natives : Trace} {roster : Roster}
    (h : trace.Futile bridge explicit natives) (hl : trace.lifecycle = natives)
    (hc : ∀ parent, bridge.Bequeaths parent → (Allocator.merge explicit parent).Complete)
    (hp : ∀ native, .noDestroyInstance native ∉ trace ∧ .noDestroyDevice native ∉ trace) (hn : trace.New roster) :
    Takes Exchange.Pairs roster trace roster := by
  cases h with
  | none => exact pairs_of_lifecycle hl rfl
  | inst ha =>
    exact pairs_of_abandons .inst hl ha (fun _ => rfl) (fun _ => rfl) (fun _ => rfl) (fun native => (hp native).1) hn
      (hc _ (.inl rfl))
  | device hparent ha =>
    exact pairs_of_abandons .device hl ha (fun _ => rfl) (fun _ => rfl) (fun _ => rfl) (fun native => (hp native).2)
      hn (hc _ hparent)
  | pool hparent => exact pairs_of_refused hl rfl (hc _ hparent)
  | fence hparent => exact pairs_of_refused hl rfl (hc _ hparent)

section Outcome

variable [Reckoning] {bridge after : Bridge} {owner : Address} {event : Event} {natives : Trace} {live : List Object}

/-- New allocators come about by a merge over old ones. -/
theorem Outcome.bequeaths {parent : Allocator} (h : Outcome bridge owner event after)
    (hk : bridge.Keeps owner event.trace natives after) (hp : after.Bequeaths parent) :
    bridge.Bequeaths parent ∨
      ∃ earlier, bridge.Bequeaths earlier ∧ parent = Allocator.merge event.call.explicit? earlier := by
  obtain rfl | ⟨address, block, hb, ha⟩ := hp
  · exact .inl (.inl rfl)
  -- Only the block of the owner may be a new one.
  by_cases hne : address ≠ owner
  · have ho : block.IsOwner := by cases block <;> trivial
    exact .inl (.inr ⟨address, block, (hk.others address block hne ho).1 hb, ha⟩)
  obtain rfl := not_not.1 hne
  have device {record changed : Device} (hfound : bridge.blocks[address]? = some (.device record))
      (hleft : after.blocks[address]? = some (.device changed)) (hs : changed.allocator = record.allocator) :
      bridge.Bequeaths parent := by
    rw [hleft] at hb
    cases hb
    exact .inr ⟨address, .device record, hfound, (congrArg some hs).symm.trans ha⟩
  cases h with
  | kept hblocks _ _ _ => exact .inl (.inr ⟨address, block, hblocks ▸ hb, ha⟩)
  | createdInstance _ hblocks _ =>
    rw [hblocks, Bridge.blocks_put_self] at hb
    cases hb
    exact .inr ⟨.system, .inl rfl, (Option.some.inj ha).symm⟩
  | populated hfound hleft _ =>
    rw [hleft] at hb
    cases hb
    exact .inl (.inr ⟨address, _, hfound, ha⟩)
  | destroyedInstance _ hgone _ =>
    rw [hgone] at hb
    cases hb
  | createdDevice hn hm _ =>
    rw [hm.left, hn.found] at hb
    cases hb
    exact .inr ⟨_, hm.inherits, (Option.some.inj ha).symm⟩
  | destroyedDevice hd =>
    rw [hd.gone] at hb
    cases hb
  | createdPool hm _ => exact .inl (device hm.found (Bridge.found_of_put hm.left) rfl)
  | destroyedPool _ hd => exact .inl (device hd.found hd.left hd.same.allocator)
  | allocated hr _ _ => exact .inl (device hr.found hr.left hr.regroups.same.allocator)
  | freed hr _ _ => exact .inl (device hr.found hr.left hr.regroups.same.allocator)
  | createdFence hm _ => exact .inl (device hm.found (Bridge.found_of_put hm.left) rfl)
  | createdPlainFence hfound _ => exact .inl (device hfound hfound rfl)
  | destroyedFence _ hd => exact .inl (device hd.found (Bridge.found_of_put hd.left) rfl)

/-- Whoever comes to a vacant place leaves the native objects of all others as they are. -/
theorem Agrees.roster_of_vacant {trace : Trace} (ha : Agrees bridge live) (hk : bridge.Keeps owner trace natives after)
    (hn : bridge.blocks[owner]? = none) : after.roster live = bridge.roster live := by
  refine Bridge.roster_congr fun object hm => ?_
  obtain ⟨address, ho⟩ := ha.owners object hm
  refine hk.native?_ne ho fun he => ?_
  have := mem_objectsOf.2 ⟨hm, he⟩
  rw [ha.vacant hn] at this
  exact Multiset.notMem_zero _ this

/-- With an instance goes its native instance. -/
theorem Agrees.roster_without_instance {record : Instance} {trace : Trace} (ha : Agrees bridge live)
    (hk : bridge.Keeps owner trace natives after) (hfound : bridge.blocks[owner]? = some (.inst record)) :
    bridge.roster live = (.inst record.native, record.allocator.callbacks?) ::ₘ
      after.roster (live.filter fun object => !(object.isInst && object.owner = owner.toHandle)) := by
  obtain ⟨explicit, hobjects, -⟩ := ha.inst hfound
  refine Bridge.roster_filter_owner owner (fun object hm => ?_) (fun object hm hne => ?_) ?_
  · have hinst (ho : object.owner = owner.toHandle) : object.isInst := by
      have := mem_objectsOf.2 ⟨hm, ho⟩
      rw [hobjects, Multiset.mem_singleton] at this
      rw [this]
      rfl
    by_cases ho : object.owner = owner.toHandle
    · simp [ho, hinst ho]
    · simp [ho]
  · obtain ⟨address, ho⟩ := ha.owners object hm
    exact hk.native?_ne ho hne
  · rw [hobjects, ← Multiset.cons_zero, Multiset.filterMap_cons_some _ _ _ (Bridge.native?_of_inst hfound rfl),
      Multiset.filterMap_zero]
    rfl

/-- With a device goes its native device, if its pools and fences have gone before. -/
theorem Agrees.roster_without_device {record : Device} {trace : Trace} (ha : Agrees bridge live)
    (hk : bridge.Keeps owner trace natives after) (hfound : bridge.blocks[owner]? = some (.device record))
    (hchildless : ∀ object ∈ live, object.owner = owner.toHandle → ¬object.isChild) :
    bridge.roster live = (.device record.native, record.allocator.callbacks?) ::ₘ
      after.roster (live.filter fun object => object.isInst || object.owner ≠ owner.toHandle) := by
  have hm := ha.device hfound
  obtain ⟨explicit, hdevice, -⟩ := hm.device
  refine Bridge.roster_filter_owner owner (fun object hmem => ?_) (fun object hmem hne => ?_) ?_
  · by_cases ho : object.owner = owner.toHandle
    · simp [ho, hm.noInst object (mem_objectsOf.2 ⟨hmem, ho⟩)]
    · simp [ho]
  · obtain ⟨address, ho⟩ := ha.owners object hmem
    exact hk.native?_ne ho hne
  · rw [← Multiset.filter_add_not (fun object : Object => object.isDevice) (objectsOf owner.toHandle live), hdevice,
      Multiset.filterMap_add, ← Multiset.cons_zero,
      Multiset.filterMap_cons_some _ _ _ (Bridge.native?_of_device hfound rfl), Multiset.filterMap_zero]
    -- What is left are command buffers.
    have hrest : ((objectsOf owner.toHandle live).filter fun object => ¬object.isDevice).filterMap bridge.native? = 0 := by
      refine filterMap_eq_zero fun object hmem => ?_
      obtain ⟨hmem, hd⟩ := Multiset.mem_filter.1 hmem
      obtain ⟨hlive, ho⟩ := mem_objectsOf.1 hmem
      have hi := hm.noInst object hmem
      have hch := hchildless object hlive ho
      rw [Bridge.native?_of_device hfound ho]
      cases object <;> simp_all [Object.isInst, Object.isDevice, Object.isChild, Object.native?]
    rw [hrest]
    rfl

/-- Where a device stays, so do its native objects. -/
theorem Bridge.Keeps.native?_of_same {trace : Trace} {device changed : Device} (hk : bridge.Keeps owner trace natives after)
    (hfound : bridge.blocks[owner]? = some (.device device)) (hleft : after.blocks[owner]? = some (.device changed))
    (hsame : device.SameDevice changed) : after.native? = bridge.native? := by
  refine hk.native?_eq ?_
  rw [Bridge.base?_of_some hfound, Bridge.base?_of_some hleft, Block.base?, Block.base?, hsame.native, hsame.allocator]

section Children

variable {trace : Trace} {device changed : Device} {pending : Registry.Pending} {pool fence : NativeHandle}
  {passed : Option CallbackSet} {registry : Registry}

/-- A new object of a device is created with the callbacks that are recorded for it. -/
theorem Bridge.Keeps.pairs_of_created {exchange : Exchange} {object : Object} {native : NativeObject} {allocator : Allocator}
    (hk : bridge.Keeps owner trace [exchange] after) (hb : bridge.blocks[owner]? = some (.device device))
    (hl : after = bridge.put owner (.device changed)) (hs : device.SameDevice changed) (ho : object.owner = owner.toHandle)
    (hp : pending.allocator = allocator) (hd : exchange.dealing? = some (.created native pending.nativeCallbacks))
    (hobject : object.native? (device.native, device.allocator) = some (native, allocator.callbacks?))
    (hc : allocator.Complete) (hn : trace.New (bridge.roster live)) :
    Takes Exchange.Pairs (bridge.roster live) trace (after.roster (object :: live)) := by
  obtain rfl := hp
  rw [Bridge.roster_of_native? (hk.native?_of_same hb (Bridge.found_of_put hl) hs),
    Bridge.roster_cons ((Bridge.native?_of_device hb ho).trans hobject)]
  exact Trace.pairs_of_created hk.effect.lifecycle hd hn hc

theorem CommandPool.Made.pairs {info : Option PoolInfo} {explicit : Option CallbackSet}
    (hm : Made bridge (some owner.toHandle) info explicit trace after owner device pending pool registry)
    (hk : bridge.Keeps owner trace [.native (.createPool device.native info pending.nativeCallbacks) (.ok pool)] after)
    (hc : (Allocator.merge explicit device.allocator).Complete) (hn : trace.New (bridge.roster live)) :
    Takes Exchange.Pairs (bridge.roster live) trace (after.roster (.pool owner.toHandle pool explicit :: live)) :=
  hk.pairs_of_created hm.found hm.left ⟨rfl, rfl, rfl, rfl, rfl⟩ rfl hm.allocator rfl rfl hc hn

theorem Fence.Made.pairs {info : Option FenceInfo} {set : CallbackSet}
    (hm : Made bridge (some owner.toHandle) info set trace after owner device pending fence registry)
    (hk : bridge.Keeps owner trace [.native (.createFence device.native info pending.nativeCallbacks) (.ok fence)] after)
    (hc : (Allocator.merge (some set) device.allocator).Complete) (hn : trace.New (bridge.roster live)) :
    Takes Exchange.Pairs (bridge.roster live) trace (after.roster (.fence owner.toHandle fence (some set) :: live)) :=
  hk.pairs_of_created hm.found hm.left ⟨rfl, rfl, rfl, rfl, rfl⟩ rfl hm.allocator rfl rfl hc hn

/-- A pool is destroyed with the callbacks that are recorded for it. -/
theorem CommandPool.Destroyed.pairs
    (hd : Destroyed bridge (some owner.toHandle) pool passed trace after owner device changed) (ha : Agrees bridge live)
    (hr : Recorded bridge live)
    (hpassed : ∀ explicit, .pool owner.toHandle pool explicit ∈ live → passed = none ∨ passed = explicit) :
    Takes Exchange.Pairs (bridge.roster live) trace
      (after.roster ((live.eraseP fun object => object.isPool pool && object.owner = owner.toHandle).filter fun object =>
        !(object.isCommandBuffer pool && object.owner = owner.toHandle))) := by
  have hpool : ∃ object ∈ live, object.isPool pool ∧ object.owner = owner.toHandle := by
    have := hd.references
    have := (ha.device hd.found).pools pool
    obtain ⟨object, hm, hp⟩ := Multiset.countP_pos.1 (by omega : 0 < (objectsOf owner.toHandle live).countP (·.isPool pool))
    exact ⟨object, (mem_objectsOf.1 hm).1, hp, (mem_objectsOf.1 hm).2⟩
  obtain ⟨object, hmem, hp, ho, he⟩ := exists_erased hpool
  obtain ⟨explicit, hobject⟩ := Object.eq_pool hp
  rw [ho] at hobject
  subst hobject
  have hmerge := Allocator.merge_passed (hpassed explicit hmem) device.allocator
  have hdealing : (destruction device pool passed).dealing? = some (.destroyed (.pool device.native pool)
      ((Allocator.merge explicit device.allocator).nativeCallbacks .call)) := by
    rw [destruction, (hr owner device hd.found).pools pool explicit (mem_objectsOf.2 ⟨hmem, rfl⟩), Option.getD_some, hmerge]
    rfl
  rw [Bridge.roster_of_native? (hd.keeps.native?_of_same hd.found hd.left hd.same),
    Bridge.roster_without_pool hd.found rfl he]
  exact Trace.pairs_of_destroyed hd.keeps.effect.lifecycle hdealing

/-- A fence is destroyed with the callbacks that are recorded for it, or those of its device if there are none. -/
theorem Fence.Destroyed.pairs
    (hd : Destroyed bridge (some owner.toHandle) fence passed trace after owner device registry) (hr : Recorded bridge live)
    (hfence : ∃ object ∈ live, object.isFence fence ∧ object.owner = owner.toHandle)
    (hpassed : ∀ explicit, .fence owner.toHandle fence explicit ∈ live → passed = none ∨ passed = explicit) :
    Takes Exchange.Pairs (bridge.roster live) trace
      (after.roster (live.eraseP fun object => object.isFence fence && object.owner = owner.toHandle)) := by
  obtain ⟨object, hmem, hp, ho, he⟩ := exists_erased hfence
  obtain ⟨explicit, hobject⟩ := Object.eq_fence hp
  rw [ho] at hobject
  subst hobject
  have hbase : (device.fences.get? fence).getD device.allocator = Allocator.merge explicit device.allocator := by
    rw [(hr owner device hd.found).fences fence explicit (mem_objectsOf.2 ⟨hmem, rfl⟩)]
    cases explicit <;> rfl
  have hmerge := Allocator.merge_passed (hpassed explicit hmem) device.allocator
  have hdealing : (destruction device fence passed).dealing? = some (.destroyed (.fence device.native fence)
      ((Allocator.merge explicit device.allocator).nativeCallbacks .call)) := by
    rw [destruction, hbase, hmerge]
    rfl
  rw [Bridge.roster_of_native? (hd.keeps.native?_of_same hd.found (Bridge.found_of_put hd.left) ⟨rfl, rfl, rfl, rfl, rfl⟩),
    Bridge.roster_of_coe_eq he (Bridge.native?_of_device hd.found rfl)]
  exact Trace.pairs_of_destroyed hd.keeps.effect.lifecycle hdealing

/-- A device is destroyed with the callbacks of its record. -/
theorem Device.Destroyed.pairs (hd : Destroyed bridge (some owner.toHandle) passed trace after owner device)
    (ha : Agrees bridge live) (hchildless : ∀ object ∈ live, object.owner = owner.toHandle → ¬object.isChild)
    (hpassed : ∀ explicit queues, .device owner.toHandle explicit queues ∈ live → passed = none ∨ passed = explicit) :
    Takes Exchange.Pairs (bridge.roster live) trace
      (after.roster (live.filter fun object => object.isInst || object.owner ≠ owner.toHandle)) := by
  obtain ⟨explicit, hobjects, hallocator⟩ := (ha.device hd.found).device
  have hmem : .device owner.toHandle explicit (device.families.map (·.request)) ∈ live := by
    have : .device owner.toHandle explicit (device.families.map (·.request)) ∈
        (objectsOf owner.toHandle live).filter (·.isDevice) := by
      rw [hobjects]
      exact Multiset.mem_singleton_self _
    exact (mem_objectsOf.1 (Multiset.mem_filter.1 this).1).1
  have hmerge : Allocator.merge passed device.allocator = device.allocator := by
    rw [← hallocator]
    exact Allocator.merge_passed (hpassed explicit _ hmem) _
  rw [ha.roster_without_device hd.keeps hd.found hchildless]
  exact Trace.pairs_of_destroyed hd.keeps.effect.lifecycle (by rw [destruction, hmerge]; rfl)

end Children

/-- Native objects come and go in pairs of exchanges that hand over callbacks of the same functions. -/
theorem Outcome.pairs (h : Outcome bridge owner event after) (hk : bridge.Keeps owner event.trace natives after)
    (ha : Agrees bridge live) (hr : Recorded bridge live)
    (hc : ∀ parent, bridge.Bequeaths parent → (Allocator.merge event.call.explicit? parent).Complete)
    (ht : event.Tidy live) (hn : event.trace.New (bridge.roster live)) :
    Takes Exchange.Pairs (bridge.roster live) event.trace (after.roster (event.live live)) := by
  have device {record : Device} (hfound : bridge.blocks[owner]? = some (.device record)) :
      bridge.Bequeaths record.allocator :=
    .inr ⟨owner, _, hfound, rfl⟩
  cases h with
  | kept hblocks he hfutile hl =>
    have hnative : after.native? = bridge.native? := by
      funext object
      rw [Bridge.native?, Bridge.native?, Bridge.base?, Bridge.base?, hblocks]
    rw [hl live ha.rooted, Bridge.roster_of_native? hnative]
    exact hfutile.pairs he.lifecycle hc ht.provided hn
  | @createdInstance _ explicit _ _ _ native _ _ hvacant hblocks hk' =>
    have hfound := hblocks ▸ Bridge.blocks_put_self
    show Takes _ _ _ (after.roster (.inst owner.toHandle explicit none :: live))
    rw [Bridge.roster_cons (Bridge.native?_of_inst hfound rfl), ha.roster_of_vacant hk hvacant]
    exact Trace.pairs_of_created hk'.effect.lifecycle rfl hn (hc _ (.inl rfl))
  | @populated count intoArray trace listing record array _ _ hfound hleft hk' =>
    have hnative : after.native? = bridge.native? :=
      hk.native?_eq (by rw [Bridge.base?_of_some hfound, Bridge.base?_of_some hleft]; rfl)
    have hlive : bridge.roster (Event.live live ⟨.enumeratePhysicalDevices (some owner.toHandle) count intoArray, trace,
        listing⟩) = bridge.roster live := by
      show bridge.roster ((trace.findSome? Exchange.listed?).elim live _) = _
      cases trace.findSome? Exchange.listed? with
      | none => rfl
      | some capacity => exact Bridge.roster_map_list _ _
    rw [Bridge.roster_of_native? hnative, hlive]
    exact Trace.pairs_of_lifecycle hk'.effect.lifecycle ⟨_, rfl, rfl⟩
  | @destroyedInstance passed _ record _ hfound hgone hk' =>
    obtain ⟨explicit, hobjects, hallocator⟩ := ha.inst hfound
    have hmem : .inst owner.toHandle explicit (record.physicalDevices.map (·.capacity)) ∈ objectsOf owner.toHandle live := by
      rw [hobjects]
      exact Multiset.mem_singleton_self _
    have hmerge : Allocator.merge passed record.allocator = record.allocator := by
      rw [hallocator]
      exact Allocator.merge_passed (ht.passed _ (mem_objectsOf.1 hmem).1 (decide_eq_true rfl)) _
    rw [ha.roster_without_instance hk hfound]
    exact Trace.pairs_of_destroyed hk'.effect.lifecycle (by rw [hmerge]; rfl)
  | @createdDevice _ info explicit _ _ _ native _ parent _ _ _ hn' hm hk' =>
    have hfound : after.blocks[owner]? = _ := hm.left ▸ hn'.found _
    show Takes _ _ _ (after.roster (.device owner.toHandle explicit info.queues.toList :: live))
    rw [Bridge.roster_cons (Bridge.native?_of_device hfound rfl), ha.roster_of_vacant hk hn'.place]
    exact Trace.pairs_of_created hk'.effect.lifecycle rfl hn (hc _ hm.inherits)
  | destroyedDevice hd =>
    exact hd.pairs ha (ht.childless _ _ rfl) fun _ _ hm => ht.passed _ hm (decide_eq_true rfl)
  | createdPool hm hk' => exact hm.pairs hk' (hc _ (device hm.found)) hn
  | @destroyedPool _ _ _ _ pool _ hz hd =>
    show Takes _ _ _ (after.roster (if pool = 0 then live else _))
    rw [if_neg hz]
    exact hd.pairs ha hr fun _ hm => ht.passed _ hm (by simp [Call.destroys])
  | @allocated request _ _ stored _ _ new _ hr' _ _ =>
    have hlifecycle := hr'.keeps.effect.lifecycle
    rw [Bridge.roster_of_native? (hk.native?_of_same hr'.found hr'.left hr'.regroups.same)]
    cases stored with
    | none => exact Trace.pairs_of_lifecycle hlifecycle rfl
    | some stored =>
      have hnew : bridge.roster ((stored.filterMap id).map (.commandBuffer owner.toHandle request.pool)) = 0 := by
        refine Bridge.roster_eq_zero fun object hm => ?_
        obtain ⟨handle, -, rfl⟩ := List.mem_map.1 hm
        exact Bridge.native?_of_device hr'.found rfl
      show Takes _ _ _ (bridge.roster ((stored.filterMap id).map _ ++ live))
      rw [Bridge.roster_append, hnew, Multiset.zero_add]
      exact Trace.pairs_of_lifecycle hlifecycle rfl
  | freed hr' _ _ =>
    show Takes _ _ _ (after.roster (live.filter _))
    rw [Bridge.roster_of_native? (hk.native?_of_same hr'.found hr'.left hr'.regroups.same), Bridge.roster_filter]
    · exact Trace.pairs_of_lifecycle hr'.keeps.effect.lifecycle rfl
    · intro object _ hp
      rw [Bool.not_eq_false'] at hp
      obtain ⟨handle, -, heq⟩ := List.any_eq_true.1 hp
      obtain rfl := of_decide_eq_true heq
      exact Bridge.native?_of_device hr'.found rfl
  | createdFence hm hk' => exact hm.pairs hk' (hc _ (device hm.found)) hn
  | @createdPlainFence info _ record fence hfound hk' =>
    show Takes _ _ _ (bridge.roster (.fence owner.toHandle fence none :: live))
    rw [Bridge.roster_cons (Bridge.native?_of_device hfound rfl)]
    exact Trace.pairs_of_created hk'.effect.lifecycle rfl hn (hc _ (device hfound))
  | @destroyedFence _ _ _ fence _ _ hz hd =>
    show Takes _ _ _ (after.roster (if fence = 0 then live else _))
    rw [if_neg hz]
    exact hd.pairs hr (ht.fence _ _ _ rfl hz) fun _ hm => ht.passed _ hm (by simp [Call.destroys])

/-- A handle for a new pool or fence is not that of a live one. -/
theorem Outcome.unrepeated (h : Outcome bridge owner event after) (ha : Agrees bridge live)
    (hn : event.trace.New (bridge.roster live)) : event.Unrepeated live where
  newPool handle info explicit trace code pool he object hm ho hp := by
    subst he
    obtain ⟨found, hobject⟩ := Object.eq_pool hp
    rw [ho] at hobject
    subst hobject
    cases h with
    | kept _ _ _ hl => exact List.cons_ne_self _ _ (hl live ha.rooted)
    | createdPool hmade hk =>
      have hnative := Bridge.native?_of_device hmade.found ho
      exact hn _ _ _ _ hk.effect.lifecycle rfl (Multiset.mem_map_of_mem Prod.fst (Bridge.mem_roster hm hnative))
  newFence handle info explicit trace code fence he object hm ho hp := by
    subst he
    obtain ⟨found, hobject⟩ := Object.eq_fence hp
    rw [ho] at hobject
    subst hobject
    cases h with
    | kept _ _ _ hl => exact List.cons_ne_self _ _ (hl live ha.rooted)
    | createdFence hmade hk =>
      have hnative := Bridge.native?_of_device hmade.found ho
      exact hn _ _ _ _ hk.effect.lifecycle rfl (Multiset.mem_map_of_mem Prod.fst (Bridge.mem_roster hm hnative))
    | createdPlainFence hfound hk =>
      have hnative := Bridge.native?_of_device hfound ho
      exact hn _ _ _ _ hk.effect.lifecycle rfl (Multiset.mem_map_of_mem Prod.fst (Bridge.mem_roster hm hnative))

end Outcome

/-! ## Orderly uses -/

/-- The event is tidy, callbacks can free what they allocate, and the native driver gives no handle of a live object to
another. -/
structure Event.Orderly (history : List Event) (event : Event) : Prop
    extends Event.Freeing history event, Event.Tidy (liveAfter history) event where
  unrepeated : (traceOf history ++ event.trace).standing?.isSome

/-- What holds after every orderly event: all allocators are complete, and native objects have come and gone in pairs, so
that they are those of the live objects. -/
structure NativeInvariant [Reckoning] (history : List Event) (bridge : Bridge) : Prop extends Invariant history bridge where
  recorded : Recorded bridge (liveAfter history)
  complete : ∀ parent, bridge.Bequeaths parent → parent.Complete
  pairs : Takes Exchange.Pairs 0 (traceOf history) (bridge.roster (liveAfter history))
  standing : ∃ objects, (traceOf history).standing? = some objects ∧
    (objects : Multiset NativeObject) = (bridge.roster (liveAfter history)).map Prod.fst

namespace NativeInvariant

variable [Reckoning] {history : List Event} {bridge after : Bridge} {event : Event}

theorem initial : NativeInvariant [] .initial where
  toInvariant := .initial
  recorded := .initial
  complete parent hp := by
    obtain rfl | ⟨address, block, hb, -⟩ := hp
    · exact Allocator.complete_system
    · have : Bridge.initial.blocks[address]? = none := Std.ExtTreeMap.getElem?_empty
      rw [this] at hb
      cases hb
  pairs := rfl
  standing := ⟨[], rfl, rfl⟩

theorem step (h : NativeInvariant history bridge) (ha : event.Orderly history) (hl : event.Leads bridge after) :
    NativeInvariant (event :: history) after := by
  have hreturns : ∀ set ∈ event.call.explicit?, set.Returns := fun set hm _ => ha.free set hm
  obtain ⟨owner, natives, ho, hk⟩ := h.outcome (ha.toProper.permitted h.agrees hreturns) ha.fresh hl
  obtain ⟨objects, hobjects, hroster⟩ := h.standing
  obtain ⟨objects', hobjects'⟩ := Option.isSome_iff_exists.1 ha.unrepeated
  have hstanding := (Trace.takes_standing_iff hobjects).1 hobjects'
  -- What stands is what is paired, so an object that is created again would not stand.
  have hn : event.trace.New (bridge.roster (liveAfter history)) := by
    intro exchange rest object callbacks hfirst hd
    have hnatives : Takes (fun before exchange after => exchange.standing? before = some after) objects
        event.trace.lifecycle objects' :=
      (Takes.filter_iff fun _ => Exchange.standing?_of_not_lifecycle).2 hstanding
    rw [hfirst] at hnatives
    obtain ⟨between, hs, -⟩ := hnatives
    rw [← hroster, Multiset.mem_coe]
    exact Exchange.not_mem_of_standing? hs hd
  have hpairs := ho.pairs hk h.agrees h.recorded
    (fun parent hp => Allocator.complete_merge (h.complete parent hp) ha.free) ha.toTidy hn
  refine ⟨h.toInvariant.step ho ha.fresh hk, h.recorded.step h.agrees h.sound (ho.unrepeated h.agrees hn) ho hk,
    fun parent hp => ?_, Takes.append_iff.2 ⟨_, h.pairs, hpairs⟩, objects', hobjects',
    Trace.standing_of_pairs hpairs hstanding hroster⟩
  obtain hold | ⟨earlier, hold, rfl⟩ := ho.bequeaths hk hp
  · exact h.complete parent hold
  · exact Allocator.complete_merge (h.complete earlier hold) ha.free

end NativeInvariant

/-- Whatever the native driver obtains through callbacks goes back to the allocator it came from. Each native object is
destroyed with callbacks of the same functions as those it was created with, so at every moment the application has seen
come, and not go, exactly the blocks and the internal allocations of the native objects that stand; and these are in the end
those of the live objects. -/
theorem natives_balanced {history : List Event} {bridge : Bridge} {driver : NativeDriver}
    (h : Reaches Event.Orderly history bridge) (ha : Takes NativeDriver.Acts .initial (traceOf history) driver) :
    Takes Exchange.Pairs 0 (traceOf history) (bridge.roster (liveAfter history)) ∧
      driver.stocks.map Stock.entry = bridge.roster (liveAfter history) ∧ driver.Balanced ∧
      (liveAfter history = [] → Takes Service.Settles 0 driver.activity 0 ∧ Takes Service.Tells 0 driver.activity 0) ∧
      ∀ first last moment, traceOf history = first ++ last → Takes NativeDriver.Acts .initial first moment →
        moment.Balanced := by
  -- All allocators can free here, but the invariant does not depend on it.
  let _ : Reckoning := ⟨False⟩
  have hi : NativeInvariant history bridge := by
    clear ha
    induction h with
    | initial => exact .initial
    | step _ ha hl ih => exact ih.step ha hl
  obtain ⟨hbalanced, hstocks⟩ := NativeDriver.balanced_of_pairs ha hi.pairs Roster.sound_zero rfl NativeDriver.balanced_initial
  refine ⟨hi.pairs, hstocks, hbalanced, fun hnone => ?_, fun first last moment hsplit hm => ?_⟩
  · have hempty : driver.stocks = 0 := by
      rw [hnone] at hstocks
      exact Multiset.map_eq_zero.1 hstocks
    have := hbalanced.blocks
    have := hbalanced.notes
    simp_all
  · obtain ⟨between, hp, -⟩ := Takes.append_iff.1 (hsplit ▸ hi.pairs)
    exact (NativeDriver.balanced_of_pairs hm hp Roster.sound_zero rfl NativeDriver.balanced_initial).1

/-! ## A sample -/

/-- The native driver has no way to destroy an instance or a device. -/
def Exchange.lacksDestruction : Exchange → Bool
  | ⟨.instanceEntryPoint _ name, found⟩ => name = "vkDestroyInstance" && !found
  | ⟨.deviceEntryPoint _ name, found⟩ => name = "vkDestroyDevice" && !found
  | _ => false

namespace Event

/-- A test for tidy events. -/
def isTidy (live : List Object) (event : Event) : Bool :=
  (live.all fun object => !event.call.destroys object || event.call.passed? = none ||
      event.call.passed? = object.explicit?) &&
    (match event.call with
      | .destroyDevice (some handle) _ => live.all fun object => !(object.owner = handle && object.isChild)
      | .destroyFence (some handle) fence _ =>
        fence = 0 || live.any fun object => object.isFence fence && object.owner = handle
      | _ => true) &&
    event.trace.all fun exchange => !exchange.lacksDestruction

theorem tidy_of_isTidy {live : List Object} {event : Event} (h : event.isTidy live) : event.Tidy live := by
  simp only [isTidy, Bool.and_eq_true, List.all_eq_true] at h
  obtain ⟨⟨hpassed, horder⟩, hprovided⟩ := h
  constructor
  · intro object hm hd
    have := hpassed object hm
    simpa [hd] using this
  · intro handle passed hcall object hm ho
    rw [hcall] at horder
    have := List.all_eq_true.1 horder object hm
    simpa [ho] using this
  · intro handle fence passed hcall hz
    rw [hcall] at horder
    simpa [hz] using horder
  · exact fun native => ⟨fun hm => absurd (hprovided _ hm) (by simp [Exchange.noDestroyInstance, Exchange.lacksDestruction]),
      fun hm => absurd (hprovided _ hm) (by simp [Exchange.noDestroyDevice, Exchange.lacksDestruction])⟩

/-- A test for orderly events. -/
def OrderlyForSure (history : List Event) (event : Event) : Prop :=
  event.FreeingForSure history ∧ event.isTidy (liveAfter history) ∧ (traceOf history ++ event.trace).standing?.isSome

instance (history : List Event) (event : Event) : Decidable (OrderlyForSure history event) :=
  inferInstanceAs (Decidable (_ ∧ _))

theorem OrderlyForSure.orderly {history : List Event} {event : Event} (h : event.OrderlyForSure history) :
    event.Orderly history where
  toFreeing := h.1.freeing
  toTidy := tidy_of_isTidy h.2.1
  unrepeated := h.2.2

end Event

namespace Sample

/-- What the sample driver keeps of an object: the callbacks of its creation, and a block if it got one. -/
structure Kept where
  object : NativeObject
  callbacks : Option Callbacks
  memory : Option Address
  deriving DecidableEq

namespace Kept

/-- For each object the sample driver holds a block, if it got one, and an internal allocation. -/
def items (memory : Option Address) : Multiset Item :=
  .internal 64 ⟨0⟩ .object ::ₘ memory.elim 0 fun address => .block address ⟨24, 8⟩ ::ₘ 0

def stock (kept : Kept) : Stock := ⟨kept.object, kept.callbacks, items kept.memory⟩

end Kept

/-- The sample driver: what it keeps, and what it has asked of callbacks. -/
structure Driver where
  kept : List Kept
  activity : List Service

namespace Driver

def obtain (callbacks : NativeCallbacks) : Program (Option Address) := do
  let memory ← callbacks.allocate 24 8 .object
  callbacks.notifyAllocation 64 ⟨0⟩ .object
  pure memory

def giveBack (callbacks : NativeCallbacks) (memory : Option Address) : Program Unit := do
  callbacks.notifyFree 64 ⟨0⟩ .object
  match memory with
  | some address => callbacks.release (some address)
  | none => pure ()

def view (driver : Driver) : NativeDriver := ⟨(driver.kept.map Kept.stock : List Stock), driver.activity⟩

/-- What the sample driver asks through callbacks if it is handed some, and what it learns then. -/
def conduct {α : Type} (driver : Driver) (callbacks : Option NativeCallbacks) (program : NativeCallbacks → Program α)
    (otherwise : α) : List Service × α :=
  callbacks.elim ([], otherwise) fun callbacks =>
    let played := (program callbacks).play .obliging driver.activity.length
    (callbacks.target.services played.1, played.2)

/-- The sample driver goes on without a block if it gets none, and knows nothing of objects that it has not created. -/
def next (driver : Driver) (exchange : Exchange) : Driver :=
  match exchange.dealing? with
  | some (.created object callbacks) =>
    let conducted := driver.conduct callbacks obtain none
    ⟨⟨object, callbacks.map (·.target), conducted.2⟩ :: driver.kept, driver.activity ++ conducted.1⟩
  | some (.refused _) | none => driver
  | some (.destroyed object callbacks) =>
    match driver.kept.find? (·.object = object) with
    | none => driver
    | some kept => ⟨driver.kept.erase kept, driver.activity ++ (driver.conduct callbacks (giveBack · kept.memory) ()).1⟩

variable {callbacks : NativeCallbacks} {memory : Option Address} {trace : Trace}

theorem serves_obtain (h : (obtain callbacks).Runs trace memory) : callbacks.Serves 0 trace (Kept.items memory) := by
  obtain ⟨first, last, found, rfl, ha, h⟩ := Program.runs_bind_iff.1 h
  obtain ⟨second, last, _, rfl, hi, rfl, rfl⟩ := Program.runs_bind_iff.1 h
  refine .step ?_ (.step (.announce hi) (.nothing _))
  cases found with
  | none => exact .refused ha
  | some address => exact .obtain ha

theorem serves_giveBack (h : (giveBack callbacks memory).Runs trace ()) : callbacks.Serves (Kept.items memory) trace 0 := by
  obtain ⟨first, last, _, rfl, hi, h⟩ := Program.runs_bind_iff.1 h
  refine .step (.finish hi) ?_
  cases memory with
  | none =>
    obtain ⟨rfl, -⟩ := h
    exact .nothing 0
  | some address =>
    show callbacks.Serves (.block address ⟨24, 8⟩ ::ₘ 0) last 0
    exact List.append_nil last ▸ .step (.giveBack h) (.nothing 0)

/-- What callbacks serve, the sample driver conducts with them. -/
theorem conducts {α : Type} {program : NativeCallbacks → Program α} {before : Multiset Item} {after : α → Multiset Item}
    (h : ∀ callbacks trace result, (program callbacks).Runs trace result → callbacks.Serves before trace (after result))
    (driver : Driver) (callbacks : Option NativeCallbacks) (otherwise : α) :
    Conducts callbacks before (driver.conduct callbacks program otherwise).1
      (after (driver.conduct callbacks program otherwise).2) := by
  cases callbacks with
  | none => exact .alone ..
  | some callbacks => exact .served (h _ _ _ (Program.runs_play _ (program callbacks) driver.activity.length))

/-- The sample driver is a native driver. -/
theorem acts (driver : Driver) (exchange : Exchange) : driver.view.Acts exchange (driver.next exchange).view := by
  obtain ⟨kept, activity⟩ := driver
  unfold next
  split
  case h_1 object callbacks hd =>
    exact .created hd (conducts (fun _ _ _ => serves_obtain) ⟨kept, activity⟩ callbacks none)
  case h_2 callbacks hd =>
    have hc : Conducts callbacks 0 [] 0 := by
      cases callbacks with
      | none => exact .alone ..
      | some callbacks => exact .served (.nothing 0)
    have := @NativeDriver.Acts.refused (kept.map Kept.stock : List Stock) activity [] exchange callbacks hd hc
    rwa [List.append_nil] at this
  case h_3 hd => exact .still hd
  case h_4 object callbacks hd =>
    split
    case h_1 hnone =>
      refine .unknown hd fun stock hm => ?_
      obtain ⟨found, hk, rfl⟩ := List.mem_map.1 (Multiset.mem_coe.1 hm)
      have hne : found.object ≠ object := by simpa using List.find?_eq_none.1 hnone found hk
      exact hne
    case h_2 found hfound =>
      obtain rfl : found.object = object := by simpa using List.find?_some hfound
      have hkept : ((kept.map Kept.stock : List Stock) : Multiset Stock) =
          found.stock ::ₘ ((kept.erase found).map Kept.stock : List Stock) :=
        Multiset.coe_eq_coe.2 ((List.perm_cons_erase (List.mem_of_find?_eq_some hfound)).map Kept.stock)
      show NativeDriver.Acts ⟨((kept.map Kept.stock : List Stock) : Multiset Stock), activity⟩ exchange _
      rw [hkept]
      exact .destroyed hd (conducts (fun _ _ _ => serves_giveBack) ⟨kept, activity⟩ callbacks ())

end Driver

/-- Callbacks that have all, notifications too. -/
def notifying (userData : UInt64) : CallbackSet := ⟨⟨userData⟩, some ⟨1⟩, some ⟨2⟩, some ⟨3⟩, some ⟨4⟩, some ⟨5⟩⟩

/-- An instance that is told of internal allocations, a device with other callbacks, a pool that inherits both, and a fence
with callbacks of its own; then all of these are destroyed, some with the callbacks that they were created with. -/
def lifetimes : List Call :=
  [.destroyInstance (some inst) none,
   .destroyDevice (some device) (some (callbacks 2)),
   .destroyPool (some device) pool none,
   .destroyFence (some device) 55 (some (callbacks 3)),
   .createFence (some device) (some ⟨0⟩) (some (callbacks 3)),
   .createPool (some device) (some ⟨0, 0⟩) none,
   .createDevice (some physicalDevice) (some ⟨0, 0, .present [⟨0, 1⟩]⟩) (some (callbacks 2)) true,
   .enumeratePhysicalDevices (some inst) (some 1) true,
   .createInstance (some ⟨0, 0, 0⟩) (some (notifying 1)) true]

/-- The events of these calls. -/
def past : List Event := (session .obliging lifetimes).1

/-- The sample driver after these calls. -/
def driver : NativeDriver := ((traceOf past).foldl Driver.next ⟨[], []⟩).view

end Sample

/-- For each of four objects the sample driver allocates and tells of an internal allocation, and gives the block back and
tells of the end: in the end nothing is left. -/
theorem natives_balanced_sample :
    Reaches Event.Orderly Sample.past (session .obliging Sample.lifetimes).2 ∧
      Takes NativeDriver.Acts .initial (traceOf Sample.past) Sample.driver ∧ Sample.driver.activity.length = 16 ∧
      Takes Service.Settles 0 Sample.driver.activity 0 ∧ Takes Service.Tells 0 Sample.driver.activity 0 := by
  have h : Reaches Event.OrderlyForSure Sample.past (session .obliging Sample.lifetimes).2 :=
    reaches_session _ (by decide +kernel)
  have h := h.mono fun _ _ => Event.OrderlyForSure.orderly
  have ha : Takes NativeDriver.Acts .initial (traceOf Sample.past) Sample.driver :=
    Takes.foldl Sample.Driver.acts (traceOf Sample.past) ⟨[], []⟩
  have hlive : liveAfter Sample.past = [] := by decide +kernel
  obtain ⟨-, -, -, hnothing, -⟩ := natives_balanced h ha
  exact ⟨h, ha, by decide +kernel, (hnothing hlive).1, (hnothing hlive).2⟩

end VulkanBridge
