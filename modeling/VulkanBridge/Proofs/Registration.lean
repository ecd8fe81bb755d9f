import VulkanBridge.Proofs.Contexts
import VulkanBridge.Proofs.Emptying
import VulkanBridge.Proofs.Storage
/-!
# Registering pools and fences

The entry of a pool, or of a fence with callbacks of its own, is obtained before the native object is made, since the native
object calls back through it, and goes under the handle once there is one. Creating such an object ends in one of a few ways
(`Registry.Enters`): there is no memory for the entry, or the native driver refuses, and then everything is as before; or the
handle is new and gets the entry, or it is known and gains a reference. A fence without callbacks of its own has no entry.

A handle that is new lasts with its entry, which counts the object and its command buffers, until the object is destroyed
(`Child.Lasting`). The destruction tells by the entry alone what there is to give back (`registered_or_undone`).
-/

namespace VulkanBridge

/-! ## Objects with a registry -/

namespace Child

/-- What such an object is made from. -/
abbrev Info : Child → Type
  | pool => Option PoolInfo
  | fence => Option FenceInfo

/-- All pools get an entry, and fences with callbacks of their own. -/
def registers (child : Child) (explicit : Option CallbackSet) : Bool := child = pool || explicit.isSome

/-- How the native driver is asked to make such an object. -/
def making : (child : Child) → NativeHandle → child.Info → Option NativeCallbacks → Except FailureCode NativeHandle → Exchange
  | pool, device, info, callbacks, answer => .native (.createPool device info callbacks) answer
  | fence, device, info, callbacks, answer => .native (.createFence device info callbacks) answer

/-- How the native driver is told to destroy such an object. -/
def unmaking : Child → NativeHandle → NativeHandle → Option NativeCallbacks → Exchange
  | pool, device, handle, callbacks => .native (.destroyPool device handle callbacks) ()
  | fence, device, handle, callbacks => .native (.destroyFence device handle callbacks) ()

/-- The creation of such an object. -/
def creation : (child : Child) → Handle → child.Info → Option CallbackSet → Trace → ResultCode → Option NativeHandle → Event
  | pool, owner, info, explicit, trace, code, stored => ⟨.createPool (some owner) info explicit, trace, (code, stored)⟩
  | fence, owner, info, explicit, trace, code, stored => ⟨.createFence (some owner) info explicit, trace, (code, stored)⟩

/-- The destruction of such an object. -/
def destroy : Child → Handle → NativeHandle → Option CallbackSet → Action Unit
  | pool, owner, handle, explicit => CommandPool.destroy (some owner) handle explicit
  | fence, owner, handle, explicit => Fence.destroy (some owner) handle explicit

/-- A device gets another registry for these objects. -/
def put : Child → Bridge → Address → Device → Registry → Bridge
  | pool, bridge, owner, device, registry => bridge.put owner (.device { device with pools := registry })
  | fence, bridge, owner, device, registry => bridge.put owner (.device { device with fences := registry })

/-- Where the records lie that count besides the object itself: those of a pool's command buffers. -/
def dependents : Child → Device → NativeHandle → List Address
  | pool, device, handle => CommandPool.places device handle
  | fence, _, _ => []

end Child

/-! ## Creations -/

namespace Registry

/-- How the creation of an object with an entry ends, and where the new entry lies if it stays. The native driver is asked
only once there is memory for the entry, and an entry that does not stay goes back to the allocator it came from. -/
inductive Enters (registry : Registry) (allocator : Allocator)
    (making : Option NativeCallbacks → Except FailureCode NativeHandle → Exchange) (put : Registry → Bridge) (before : Bridge) :
    Option Address → Trace → ResultCode → Option NativeHandle → Bridge → Prop
  | scarce : Enters registry allocator making put before none (allocator.asks .registryEntry .object none)
      .outOfHostMemory none before
  | refused (address : Address) (code : FailureCode) : Enters registry allocator making put before none
      (allocator.asks .registryEntry .object (some address) ++
        making (allocator.nativeCallbacks (.record address)) (.error code) :: allocator.returns .registryEntry address)
      code.val none before
  | recorded (address : Address) (handle : NativeHandle) : registry.entries[handle]? = none →
      Enters registry allocator making put before (some address)
        (allocator.asks .registryEntry .object (some address) ++
          [making (allocator.nativeCallbacks (.record address)) (.ok handle)])
        .success (some handle) (put (registry.record handle ⟨allocator, address⟩))
  | retained (address : Address) (handle : NativeHandle) (entry : Entry) : registry.entries[handle]? = some entry →
      Enters registry allocator making put before none
        (allocator.asks .registryEntry .object (some address) ++
          making (allocator.nativeCallbacks (.record address)) (.ok handle) :: allocator.returns .registryEntry address)
        .success (some handle) (put (registry.retain handle entry))

variable {registry : Registry} {allocator : Allocator} {trace : Trace} {before after : Bridge} {code : ResultCode}
  {stored : Option NativeHandle}

theorem asks_of_prepare {scope : Scope} {result : Except CallError Pending}
    (h : (prepare allocator scope).Runs trace result) :
    (∃ address, result = .ok ⟨allocator, address⟩ ∧ trace = allocator.asks .registryEntry scope (some address)) ∨
      (result = .error .outOfHostMemory ∧ trace = allocator.asks .registryEntry scope none) := by
  unfold prepare at h
  rw [Program.runs_bind_iff] at h
  obtain ⟨asking, last, found, rfl, ha, h⟩ := h
  rcases Allocator.asks_of_allocateObject sound_registryEntry ha with ⟨address, rfl, rfl⟩ | ⟨rfl, rfl⟩
  · obtain ⟨rfl, rfl⟩ := h
    exact .inl ⟨address, rfl, List.append_nil _⟩
  · obtain ⟨rfl, rfl⟩ := h
    exact .inr ⟨rfl, List.append_nil _⟩

theorem enters_of_enter {make : Option NativeCallbacks → Program (Except FailureCode NativeHandle)}
    {making : Option NativeCallbacks → Except FailureCode NativeHandle → Exchange} {put : Registry → Bridge → Bridge}
    (hm : ∀ callbacks trace answer, (make callbacks).Runs trace answer → trace = [making callbacks answer])
    (h : (registry.enter allocator make put).Runs before trace (code, stored) after) :
    ∃ kept, registry.Enters allocator making (put · before) before kept trace code stored after := by
  cases enterSteps h with
  | scarce hp =>
    rcases asks_of_prepare hp with ⟨_, hprepared, -⟩ | ⟨hprepared, rfl⟩
    · cases hprepared
    · cases hprepared
      exact ⟨none, .scarce⟩
  | @refused preparing creating discarding pending code hp hc hd =>
    rcases asks_of_prepare hp with ⟨address, hprepared, rfl⟩ | ⟨hprepared, -⟩
    case inr => cases hprepared
    cases hprepared
    obtain rfl := hm _ _ _ hc
    obtain rfl := Allocator.returns_of_freeObject sound_registryEntry hd
    exact ⟨none, .refused address code⟩
  | @made preparing creating inserting pending handle result hp hc hi =>
    rcases asks_of_prepare hp with ⟨address, hprepared, rfl⟩ | ⟨hprepared, -⟩
    case inr => cases hprepared
    cases hprepared
    obtain rfl := hm _ _ _ hc
    rcases runs_insert hi with ⟨hnone, rfl, rfl⟩ | ⟨entry, he, rfl, hd⟩
    · exact ⟨some address, .recorded address handle hnone⟩
    · obtain rfl := Allocator.returns_of_freeObject sound_registryEntry hd
      exact ⟨none, .retained address handle entry he⟩

end Registry

namespace Child

/-- How the creation of a pool or a fence ends. The native driver alone deals with a fence without callbacks of its own. -/
inductive Ending (child : Child) (before : Bridge) (owner : Address) (device : Device) (info : child.Info)
    (explicit : Option CallbackSet) : Option Address → Trace → ResultCode → Option NativeHandle → Bridge → Prop
  | entered {kept : Option Address} {trace : Trace} {code : ResultCode} {stored : Option NativeHandle} {after : Bridge} :
      child.registers explicit →
        (child.registry device).Enters (Allocator.merge explicit device.allocator) (child.making device.native info)
          (child.put before owner device) before kept trace code stored after →
          Ending child before owner device info explicit kept trace code stored after
  | passedOn (handle : NativeHandle) : child.registers explicit = false →
      Ending child before owner device info explicit none
        [child.making device.native info (device.allocator.nativeCallbacks (.record owner)) (.ok handle)] .success (some handle)
        before
  | turnedDown (code : FailureCode) : child.registers explicit = false →
      Ending child before owner device info explicit none
        [child.making device.native info (device.allocator.nativeCallbacks (.record owner)) (.error code)] code.val none before

variable {child : Child} {before after : Bridge} {owner : Address} {device : Device} {info : child.Info}
  {explicit : Option CallbackSet} {trace : Trace} {code : ResultCode} {stored : Option NativeHandle}

theorem ending_of_leads [Reckoning] (hs : before.Sound) (hb : before.blocks[owner]? = some (.device device))
    (hl : (child.creation owner.toHandle info explicit trace code stored).Leads before after) :
    ∃ kept, child.Ending before owner device info explicit kept trace code stored after := by
  have hrecord : before.record? .device owner.toHandle = some device := Bridge.record?_device_iff.2 ⟨rfl, hb⟩
  cases child with
  | pool =>
    have hrun : (CommandPool.create (some owner.toHandle) info explicit).Runs before trace (code, stored) after := hl
    obtain ⟨_, rfl, hbody⟩ := (hs.tagged.tells_resolve hrecord).runs_bind hrun
    obtain ⟨kept, hkept⟩ := Registry.enters_of_enter (fun _ _ _ => Program.runs_native_iff.1) hbody
    exact ⟨kept, .entered rfl hkept⟩
  | fence =>
    have hrun : (Fence.create (some owner.toHandle) info explicit).Runs before trace (code, stored) after := hl
    obtain ⟨_, rfl, hbody⟩ := (hs.tagged.tells_resolve hrecord).runs_bind hrun
    cases explicit with
    | some set =>
      obtain ⟨kept, hkept⟩ := Registry.enters_of_enter (fun _ _ _ => Program.runs_native_iff.1) hbody
      exact ⟨kept, .entered rfl hkept⟩
    | none =>
      obtain ⟨creating, last, created, between, rfl, hlift, hend⟩ := Action.runs_bind_iff.1 hbody
      obtain ⟨hnative, rfl⟩ := Action.runs_lift_iff.1 hlift
      obtain rfl := Program.runs_native_iff.1 hnative
      clear hl hrun hbody hlift hnative
      cases created with
      | ok fence =>
        obtain ⟨rfl, he, rfl⟩ := Action.runs_pure_iff.1 hend
        obtain ⟨rfl, rfl⟩ := Prod.mk.inj he
        exact ⟨none, .passedOn fence rfl⟩
      | error code =>
        obtain ⟨rfl, he, rfl⟩ := Action.runs_pure_iff.1 hend
        obtain ⟨rfl, rfl⟩ := Prod.mk.inj he
        exact ⟨none, .turnedDown code rfl⟩

end Child

/-! ## As long as the object lives -/

theorem CommandPool.length_places (device : Device) (pool : NativeHandle) : (places device pool).length = device.held pool := by
  rw [places, List.length_map, own, Device.held, elements, Multiset.coe_countP, List.countP_eq_length_filter]
  exact congrArg List.length (List.filter_congr fun entry _ => Bool.eq_iff_iff.2 (by simp [CommandBuffer.ofPool_iff]))

namespace Child

variable {child : Child} {device changed now : Device} {handle : NativeHandle} {owner place : Address} {bridge after : Bridge}
  {event : Event} {explicit : Option CallbackSet} {kept : Option Address} {places : List Address} {natives : Trace}

/-- The event makes another object with an entry under the same handle, or has the native driver destroy the object or its
device. -/
def Disturbs (child : Child) (owner : Handle) (handle : NativeHandle) (event : Event) : Prop :=
  (∃ info explicit trace code, child.registers explicit ∧ event = child.creation owner info explicit trace code (some handle)) ∨
    ∃ exchange ∈ event.trace, child.ends owner handle (event.call, exchange)

/-- A device has the same entry for a handle, with as many references besides those of the dependents. -/
structure Alike (child : Child) (handle : NativeHandle) (device changed : Device) : Prop where
  grant : (child.registry changed).grant? handle = (child.registry device).grant? handle
  surplus : (child.registry changed).references handle + (child.dependents device handle).length =
    (child.registry device).references handle + (child.dependents changed handle).length

theorem Alike.refl (child : Child) (handle : NativeHandle) (device : Device) : child.Alike handle device device := ⟨rfl, rfl⟩

/-- Where command buffers come or go, a pool has as many references besides. -/
theorem alike_of_regroups [Reckoning] {trace : Trace} (h : device.Regroups trace changed) : child.Alike handle device changed := by
  cases child with
  | pool =>
    refine ⟨h.entries handle, ?_⟩
    simp only [registry, dependents, CommandPool.length_places]
    exact h.surplus handle
  | fence =>
    have hfences : changed.fences = device.fences := h.fences
    refine ⟨?_, ?_⟩ <;> simp only [registry, hfences, dependents]

/-- Another entry comes or goes. -/
theorem alike_of_others (hg : (child.registry changed).grant? handle = (child.registry device).grant? handle)
    (hr : (child.registry changed).references handle = (child.registry device).references handle)
    (hd : changed.commandBuffers = device.commandBuffers) : child.Alike handle device changed := by
  refine ⟨hg, ?_⟩
  have : child.dependents changed handle = child.dependents device handle := by
    cases child with
    | pool => simp only [dependents, CommandPool.places, CommandPool.own, hd]
    | fence => rfl
  rw [hr, this]

/-- An event that does not disturb it leaves an entry with its references. -/
theorem leaves_entry [Reckoning] (ho : Outcome bridge place event after) (hk : bridge.Keeps place event.trace natives after)
    (hb : bridge.blocks[owner]? = some (.device device)) (hn : ¬child.Disturbs owner.toHandle handle event) :
    ∃ changed : Device, after.blocks[owner]? = some (.device changed) ∧ child.Alike handle device changed := by
  by_cases he : owner = place
  case neg => exact ⟨device, (hk.others owner (.device device) he trivial).2 hb, .refl ..⟩
  subst he
  have same {found : Device} (hfound : bridge.blocks[owner]? = some (.device found)) : found = device := by
    rw [hb] at hfound
    cases hfound
    rfl
  have noInst {record : Instance} : bridge.blocks[owner]? ≠ some (.inst record) := by
    rw [hb]
    exact nofun
  have unending {exchange : Exchange} {rest : Trace} (ht : event.trace = exchange :: rest) :
      ¬child.ends owner.toHandle handle (event.call, exchange) := by
    intro hends
    exact hn (.inr ⟨exchange, ht ▸ List.mem_cons_self .., hends⟩)
  cases ho with
  | kept hblocks _ _ _ => exact ⟨device, hblocks ▸ hb, .refl ..⟩
  | createdInstance hnone _ _ =>
    rw [hb] at hnone
    cases hnone
  | populated hinst _ _ => exact (noInst hinst).elim
  | destroyedInstance hinst _ _ => exact (noInst hinst).elim
  | createdDevice hapart _ _ =>
    rw [hapart.place] at hb
    cases hb
  | destroyedDevice hd =>
    obtain ⟨rest, hfirst⟩ := hd.first
    exact (unending hfirst (by simp [ends, Device.destruction, Exchange.native])).elim
  | @createdPool info explicit trace code _ pending pool pools _ hm _ =>
    obtain rfl := same hm.found
    refine ⟨_, hm.left ▸ Bridge.blocks_put_self, ?_⟩
    cases child with
    | pool =>
      obtain ⟨_, _, -, -, -, hins⟩ := hm.registers
      have hne : handle ≠ pool := by
        rintro rfl
        exact hn (.inl ⟨info, explicit, trace, code, rfl, rfl⟩)
      refine alike_of_others (hins.others handle hne) ?_ rfl
      have := hins.references handle
      rwa [if_neg hne.symm, Nat.add_zero] at this
    | fence => exact alike_of_others rfl rfl rfl
  | @destroyedPool explicit trace _ changed pool _ _ hd =>
    obtain rfl := same hd.found
    refine ⟨changed, hd.left, ?_⟩
    cases child with
    | pool =>
      have hne : handle ≠ pool := by
        rintro rfl
        obtain ⟨rest, hfirst⟩ := hd.first
        exact unending hfirst (by simp [ends, CommandPool.destruction, Exchange.native])
      refine ⟨hd.entries handle hne, ?_⟩
      simp only [registry, dependents, CommandPool.length_places]
      exact hd.surplus handle hne
    | fence => refine ⟨?_, ?_⟩ <;> simp only [registry, hd.fences, dependents]
  | allocated hr _ _ | freed hr _ _ =>
    obtain rfl := same hr.found
    exact ⟨_, hr.left, alike_of_regroups hr.regroups⟩
  | @createdFence info set trace code _ pending fence fences _ hm _ =>
    obtain rfl := same hm.found
    refine ⟨_, hm.left ▸ Bridge.blocks_put_self, ?_⟩
    cases child with
    | pool => exact alike_of_others rfl rfl rfl
    | fence =>
      obtain ⟨_, _, -, -, -, hins⟩ := hm.registers
      have hne : handle ≠ fence := by
        rintro rfl
        exact hn (.inl ⟨info, some set, trace, code, rfl, rfl⟩)
      refine alike_of_others (hins.others handle hne) ?_ rfl
      have := hins.references handle
      rwa [if_neg hne.symm, Nat.add_zero] at this
  | createdPlainFence _ _ => exact ⟨device, hb, .refl ..⟩
  | @destroyedFence explicit trace _ fence fences _ _ hd =>
    obtain rfl := same hd.found
    refine ⟨_, hd.left ▸ Bridge.blocks_put_self, ?_⟩
    cases child with
    | pool => exact alike_of_others rfl rfl rfl
    | fence =>
      have hne : handle ≠ fence := by
        rintro rfl
        obtain ⟨rest, hfirst⟩ := hd.first
        exact unending hfirst (by simp [ends, Fence.destruction, Exchange.native])
      refine alike_of_others (hd.entries handle hne) ?_ rfl
      have := hd.references handle
      rwa [if_neg hne.symm, Nat.sub_zero] at this

/-- Between its creation and its end, an object is registered in this way: the entry lies where it was obtained, has the
callbacks that were resolved for the object, and counts the object and its dependents. Where there is no entry, the handle
is not known. -/
structure Lasting (child : Child) (bridge : Bridge) (owner : Address) (device now : Device) (handle : NativeHandle)
    (explicit : Option CallbackSet) (kept : Option Address) : Prop where
  registered : kept.isSome = child.registers explicit
  found : bridge.blocks[owner]? = some (.device now)
  native : now.native = device.native
  allocator : now.allocator = device.allocator
  grant : (child.registry now).grant? handle =
    kept.map (⟨·, Allocator.merge explicit device.allocator, .registryEntry⟩)
  references : (child.registry now).references handle = kept.elim 0 fun _ => (child.dependents now handle).length + 1

namespace Lasting

/-- An event that does not disturb it leaves an object registered. -/
theorem step [Reckoning] (h : child.Lasting bridge owner device now handle explicit kept)
    (ho : Outcome bridge place event after) (hk : bridge.Keeps place event.trace natives after) (ht : bridge.Transition after)
    (hn : ¬child.Disturbs owner.toHandle handle event) :
    ∃ changed, child.Lasting after owner device changed handle explicit kept := by
  obtain ⟨changed, ha, halike⟩ := leaves_entry ho hk h.found hn
  have hsame := ht.same_device h.found ha
  refine ⟨changed, h.registered, ha, hsame.native.trans h.native, hsame.allocator.trans h.allocator,
    halike.grant.trans h.grant, ?_⟩
  have hsurplus := halike.surplus
  rw [h.references] at hsurplus
  cases kept with
  | none => exact Registry.references_of_none (Registry.grant?_eq_none_iff.1 (halike.grant.trans h.grant))
  | some address =>
    simp only [Option.elim_some] at hsurplus ⊢
    omega

/-- An event that does not disturb an object leaves its entry alone. -/
theorem spares [Reckoning] (h : child.Lasting bridge owner device now handle explicit kept)
    (ho : Outcome bridge place event after) (hk : bridge.Keeps place event.trace natives after)
    (hoccupies : bridge.owned.Occupies places) (hf : event.trace.Fresh places)
    (hn : ¬child.Disturbs owner.toHandle handle event) :
    ∀ address ∈ kept, ∀ exchange ∈ event.trace, exchange.returned? ≠ some address := by
  rintro address ⟨⟩
  rcases ho.remembered hk hoccupies hf ⟨now, h.found, h.grant⟩ with ⟨exchange, rest, ht, hends⟩ | ⟨hspares, -⟩
  · exact absurd (.inr ⟨exchange, ht ▸ List.mem_cons_self .., hends⟩) hn
  · exact hspares

theorem like (h : child.Lasting bridge owner device now handle explicit kept) (hl : bridge.Like after) :
    ∃ changed, child.Lasting after owner device changed handle explicit kept := by
  obtain ⟨header, ha⟩ := hl.device h.found
  cases child with
  | pool => exact ⟨_, h.registered, ha, h.native, h.allocator, h.grant, h.references⟩
  | fence => exact ⟨_, h.registered, ha, h.native, h.allocator, h.grant, h.references⟩

/-- An object stays registered while events do not disturb it, and its entry stays where it is. -/
theorem continues [Reckoning] {history later : List Event} {before between : Bridge} (hn : ¬Reckoning.strict)
    (h : Attains Event.Proper history before) (hlasting : child.Lasting before owner device now handle explicit kept)
    (hc : Continues Event.Proper history before later between)
    (hlater : ∀ event ∈ later, ¬child.Disturbs owner.toHandle handle event) :
    (∃ changed, child.Lasting between owner device changed handle explicit kept) ∧
      ∀ event ∈ later, ∀ address ∈ kept, ∀ exchange ∈ event.trace, exchange.returned? ≠ some address := by
  refine Continues.preserves (fun bridge => ∃ now, child.Lasting bridge owner device now handle explicit kept) _ _ hn h hc
    ⟨now, hlasting⟩ ?_ ?_ hlater
  · rintro earlier bridge after event place natives hs ha - ho hk ht hevent ⟨now, hnow⟩
    exact ⟨hnow.step ho hk ht hevent, hnow.spares ho hk hs.occupies ha.fresh hevent⟩
  · rintro bridge after hl ⟨now, hnow⟩
    exact hnow.like hl

end Lasting

/-- A handle that was new is registered once the creation has ended. -/
theorem Ending.lasting [Reckoning] {info : child.Info} {trace : Trace} {code : ResultCode}
    (h : child.Ending bridge owner device info explicit kept trace code (some handle) after) (hs : bridge.Sound)
    (hb : bridge.blocks[owner]? = some (.device device)) (hnone : (child.registry device).contains handle = false) :
    ∃ now, child.Lasting after owner device now handle explicit kept := by
  have hentry := Registry.contains_eq_false_iff.1 hnone
  cases h with
  | passedOn _ hplain =>
    refine ⟨device, hplain.symm, hb, rfl, rfl, ?_, ?_⟩
    · exact Registry.grant?_eq_none_iff.2 hentry
    · exact Registry.references_of_none hentry
  | entered hregisters hr =>
    cases hr with
    | retained _ _ entry he =>
      rw [hentry] at he
      cases he
    | recorded address _ _ =>
      cases child with
      | pool =>
        refine ⟨_, hregisters.symm, Bridge.blocks_put_self, rfl, rfl, Registry.grant?_record_self, ?_⟩
        -- Nothing is counted of an unknown pool, so it has no command buffers either.
        have hheld : device.held handle = 0 := by
          by_contra hne
          have hcounted := Device.Sound.counted (hs owner _ hb) handle hne
          have : device.pools.references handle = 0 := Registry.references_of_none hentry
          omega
        show _ = (CommandPool.places device handle).length + 1
        rw [CommandPool.length_places, hheld]
        exact Registry.references_record
      | fence =>
        exact ⟨_, hregisters.symm, Bridge.blocks_put_self, rfl, rfl, Registry.grant?_record_self, Registry.references_record⟩

/-! ## Destructions -/

/-- The destruction of a registered object, to the letter. The native object goes first, with callbacks resolved over those
that it was made with; then its dependents; and last the entry, which lies apart from them, if there is one. The handle is
unknown thereafter, and the entries of all others are as before. -/
structure Undoes (child : Child) (owner : Address) (device now : Device) (handle : NativeHandle)
    (explicit given : Option CallbackSet) (kept : Option Address) (trace : Trace) (after : Bridge) : Prop where
  exchanged : trace = child.unmaking device.native handle
      ((Allocator.merge given (Allocator.merge explicit device.allocator)).nativeCallbacks .call) ::
    ((child.dependents now handle).flatMap ((Allocator.merge explicit device.allocator).returns .commandBuffer) ++
      kept.elim [] ((Allocator.merge explicit device.allocator).returns .registryEntry))
  apart : ∀ address ∈ kept, address ∉ child.dependents now handle
  left : ∃ changed : Device, after.blocks[owner]? = some (.device changed) ∧
    (child.registry changed).contains handle = false ∧
    ∀ other, other ≠ handle → (child.registry changed).entries[other]? = (child.registry now).entries[other]?

end Child

/-- The entry of a pool does not lie where a command buffer does. -/
theorem CommandPool.address_not_mem_places [Reckoning] {bridge : Bridge} {owner : Address} {device : Device}
    {pool : NativeHandle} {entry : Registry.Entry} {occupied : List Address} (ho : bridge.owned.Occupies occupied)
    (hb : bridge.blocks[owner]? = some (.device device)) (he : device.pools.entries[pool]? = some entry) :
    entry.address ∉ places device pool := by
  intro hm
  obtain ⟨rest, hrest⟩ := Device.exists_owned_put bridge owner device
  rw [Bridge.put_self hb] at hrest
  have hdistinct : device.childrenOwned.Distinct := (hrest ▸ ho).distinct.of_add_left
  have hentry : entry.grant ∈ device.pools.owned + device.fences.owned :=
    Multiset.mem_add.2 (.inl (Registry.mem_owned_of_grant? (Registry.grant?_of_some he)))
  have hwrapper : ⟨entry.address, entry.allocator, .commandBuffer⟩ ∈
      Device.wrappersOwned device.pools device.commandBuffers := by
    refine (Multiset.mem_filterMap _ _).2 ⟨(pool, entry.address), mem_elements.2 (mem_places.1 hm), ?_⟩
    rw [Registry.get?_eq_some_iff.2 ⟨entry, he, rfl⟩, Option.map_some]
  exact hdistinct.ne hentry hwrapper rfl

namespace Fence

variable [Reckoning] {bridge after : Bridge} {owner : Address} {device : Device} {fence : NativeHandle}
  {explicit : Option CallbackSet} {trace : Trace}

/-- A fence with an entry that counts nothing but it goes with the entry. -/
theorem forgets_of_destroy {entry : Registry.Entry} (hs : bridge.Sound) (hb : bridge.blocks[owner]? = some (.device device))
    (hz : fence ≠ 0) (he : device.fences.entries[fence]? = some entry) (hone : entry.references = 1)
    (hrun : (destroy (some owner.toHandle) fence explicit).Runs bridge trace () after) :
    trace = destruction device fence explicit :: entry.allocator.returns .registryEntry entry.address ∧
      after = bridge.put owner (.device { device with fences := device.fences.forget fence }) := by
  have hrecord : bridge.record? .device owner.toHandle = some device := Bridge.record?_device_iff.2 ⟨rfl, hb⟩
  unfold destroy at hrun
  rw [if_neg hz] at hrun
  obtain ⟨_, rfl, hrun⟩ := (hs.tagged.tells_resolve hrecord).runs_bind hrun
  simp only [Registry.contains_iff.2 ⟨entry, he⟩, if_true, Action.runs_bind_iff, Action.runs_lift_iff, Action.runs_modify_iff]
    at hrun
  obtain ⟨_, _, _, _, rfl, ⟨hdestroy, rfl⟩, releasing, _, fences, _, rfl, ⟨hrelease, rfl⟩, rfl, rfl⟩ := hrun
  obtain rfl := Program.runs_native_iff.1 hdestroy
  rcases Registry.runs_release hrelease with ⟨hnone, -, -⟩ | ⟨found, hfound, ⟨-, rfl, hfreed⟩ | ⟨hmore, -, -⟩⟩
  · rw [he] at hnone
    cases hnone
  · obtain rfl := Option.some.inj (he.symm.trans hfound)
    obtain rfl := Allocator.returns_of_freeObject Registry.sound_registryEntry hfreed
    rw [List.append_nil]
    exact ⟨rfl, rfl⟩
  · obtain rfl := Option.some.inj (he.symm.trans hfound)
    exact absurd hone hmore

/-- A fence without an entry leaves nothing to give back. -/
theorem keeps_of_destroy (hs : bridge.Sound) (hb : bridge.blocks[owner]? = some (.device device)) (hz : fence ≠ 0)
    (hnone : device.fences.contains fence = false)
    (hrun : (destroy (some owner.toHandle) fence explicit).Runs bridge trace () after) :
    trace = [destruction device fence explicit] ∧ after = bridge := by
  have hrecord : bridge.record? .device owner.toHandle = some device := Bridge.record?_device_iff.2 ⟨rfl, hb⟩
  unfold destroy at hrun
  rw [if_neg hz] at hrun
  obtain ⟨_, rfl, hrun⟩ := (hs.tagged.tells_resolve hrecord).runs_bind hrun
  simp only [hnone, Bool.false_eq_true, if_false, Action.runs_bind_iff, Action.runs_lift_iff, Action.runs_pure_iff] at hrun
  obtain ⟨_, _, _, _, rfl, ⟨hdestroy, rfl⟩, rfl, -, rfl⟩ := hrun
  obtain rfl := Program.runs_native_iff.1 hdestroy
  exact ⟨rfl, rfl⟩

end Fence

namespace Child

variable {child : Child} {device now : Device} {handle : NativeHandle} {owner : Address} {bridge after : Bridge}
  {explicit given : Option CallbackSet} {kept : Option Address} {trace : Trace}

/-- The entry of an object that lasts with one. -/
theorem Lasting.entry {address : Address} (h : child.Lasting bridge owner device now handle explicit (some address)) :
    ∃ references : UInt32, (child.registry now).entries[handle]? =
      some ⟨Allocator.merge explicit device.allocator, references, address⟩ ∧
        references.toNat = (child.dependents now handle).length + 1 := by
  obtain ⟨⟨allocator, references, place⟩, he, hgrant⟩ := Option.map_eq_some_iff.1 h.grant
  obtain ⟨rfl, rfl, -⟩ := Grant.mk.inj hgrant
  exact ⟨references, he, (Registry.references_of_some he).symm.trans h.references⟩

/-- What becomes of a registered object that is destroyed. -/
theorem Lasting.undone [Reckoning] {places : List Address} (h : child.Lasting bridge owner device now handle explicit kept)
    (hs : bridge.Sound) (ho : bridge.owned.Occupies places) (hz : handle ≠ 0)
    (hrun : (child.destroy owner.toHandle handle given).Runs bridge trace () after) :
    child.Undoes owner device now handle explicit given kept trace after := by
  cases child with
  | pool =>
    obtain ⟨address, rfl⟩ := Option.isSome_iff_exists.1 h.registered
    obtain ⟨references, he, hcount⟩ := h.entry
    have hcount : references.toNat = now.held handle + 1 := by rw [hcount, dependents, CommandPool.length_places]
    obtain ⟨rfl, changed, hemptied⟩ := CommandPool.emptied_of_destroy hs ho h.found hz he hcount hrun
    refine ⟨?_, ?_, changed, hemptied.left, hemptied.unregistered, fun other hne => ?_⟩
    · have hget : now.pools.get? handle = some (Allocator.merge explicit device.allocator) :=
        Registry.get?_eq_some_iff.2 ⟨_, he, rfl⟩
      rw [CommandPool.destruction, hget, h.native]
      rfl
    · rintro _ ⟨⟩
      exact CommandPool.address_not_mem_places ho h.found he
    · exact hemptied.besides.pools other fun heq => hne (Option.some.inj heq)
  | fence =>
    cases kept with
    | some address =>
      obtain ⟨references, he, hcount⟩ := h.entry
      have hone : references = 1 := UInt32.toNat_inj.1 hcount
      obtain ⟨rfl, rfl⟩ := Fence.forgets_of_destroy hs h.found hz he hone hrun
      refine ⟨?_, fun _ _ => List.not_mem_nil, _, Bridge.blocks_put_self,
        Registry.contains_eq_false_iff.2 Registry.entries_forget_self, fun other hne => ?_⟩
      · have hget : now.fences.get? handle = some (Allocator.merge explicit device.allocator) :=
          Registry.get?_eq_some_iff.2 ⟨_, he, rfl⟩
        rw [Fence.destruction, hget, h.native]
        rfl
      · exact Registry.entries_forget hne
    | none =>
      have hnone : now.fences.contains handle = false :=
        Registry.contains_eq_false_iff.2 (Registry.grant?_eq_none_iff.1 h.grant)
      obtain ⟨rfl, rfl⟩ := Fence.keeps_of_destroy hs h.found hz hnone hrun
      have hplain : explicit = none := by
        have := h.registered
        cases explicit with
        | none => rfl
        | some _ => cases this
      refine ⟨?_, by rintro _ ⟨⟩, now, h.found, hnone, fun _ _ => rfl⟩
      have hget : now.fences.get? handle = none := by
        rw [Registry.get?_eq, show now.fences.grant? handle = none from h.grant, Option.map_none]
      rw [Fence.destruction, hget, h.native, h.allocator, hplain]
      rfl

end Child

/-! ## Any use -/

section Use

variable {history : List Event} {before after : Bridge} {owner : Address} {device : Device} {child : Child}
  {info : child.Info} {explicit : Option CallbackSet} {trace : Trace} {code : ResultCode} {stored : Option NativeHandle}

/-- A pool or a fence is created in full or not at all. There is no memory for its entry, or the native driver refuses and the
entry goes back where it came from; either way nothing is stored and the state is as before. Or the native handle is stored,
and of all entries only that of the handle has changed.

If the handle was new, its entry has the callbacks that were resolved for the object and one reference, and one more for each
command buffer. So it is, and the entry stays where it is, until the object is destroyed, as long as the native driver
does not give the handle again. The destruction gives the entry back, once and to the allocator that it came from. Fences
without callbacks of their own have no entry, and their destruction gives nothing back. -/
theorem registered_or_undone (h : Attains Event.Proper history before) (hb : before.blocks[owner]? = some (.device device))
    (hl : (child.creation owner.toHandle info explicit trace code stored).Leads before after) :
    ∃ kept, child.Ending before owner device info explicit kept trace code stored after ∧
      ∀ handle ∈ stored, (child.registry device).contains handle = false →
        (child.creation owner.toHandle info explicit trace code stored).Proper history →
        ∀ later between,
          Continues Event.Proper (child.creation owner.toHandle info explicit trace code stored :: history) after later
            between →
          (∀ event ∈ later, ¬child.Disturbs owner.toHandle handle event) →
          (∀ event ∈ later, ∀ address ∈ kept, ∀ exchange ∈ event.trace, exchange.returned? ≠ some address) ∧
          ∃ now, child.Lasting between owner device now handle explicit kept ∧
            ∀ given, handle ≠ 0 →
              (∃ undoing last, (child.destroy owner.toHandle handle given).Runs between undoing () last) ∧
              ∀ undoing last, (child.destroy owner.toHandle handle given).Runs between undoing () last →
                child.Undoes owner device now handle explicit given kept undoing last := by
  let _ : Reckoning := ⟨False⟩
  have hs : Settled history before := h.settled_of_proper id
  obtain ⟨kept, hending⟩ := Child.ending_of_leads hs.sound hb hl
  refine ⟨kept, hending, ?_⟩
  rintro handle ⟨⟩ hnone hp later between hc hlater
  have hafter := h.step hp hl
  obtain ⟨first, hfirst⟩ := hending.lasting hs.sound hb hnone
  obtain ⟨⟨now, hnow⟩, hspared⟩ := hfirst.continues id hafter hc hlater
  have hs' : Settled _ between := (hafter.continues hc).settled_of_proper id
  refine ⟨hspared, now, hnow, fun given hz => ⟨?_, fun undoing last hrun => hnow.undone hs'.sound hs'.occupies hz hrun⟩⟩
  obtain ⟨undoing, ⟨⟩, last, hrun⟩ := (child.destroy owner.toHandle handle given).exists_runs between
  exact ⟨undoing, last, hrun⟩

end Use

/-! ## A pool with command buffers -/

namespace Sample

/-- An instance and a device. -/
def deviceOnly : List Call := calls.drop 4

/-- What the creation of a pool with callbacks of its own comes to: the trace, the answer and the state. -/
def registered : Trace × (ResultCode × Option NativeHandle) × Bridge :=
  ((CommandPool.create (some device) (some ⟨0, 0⟩) (some (callbacks 3))).run (session .obliging deviceOnly).2).play .obliging
    (traceOf (session .obliging deviceOnly).1).length

/-- The creation as an event. -/
def registration : Event :=
  Child.pool.creation device (some ⟨0, 0⟩) (some (callbacks 3)) registered.1 registered.2.1.1 registered.2.1.2

/-- Two command buffers are allocated from the pool. -/
def occupied : Event × Bridge :=
  (Call.allocateCommandBuffers (some device) (some ⟨pool, 0, 2⟩)).play .obliging
    (traceOf (registration :: (session .obliging deviceOnly).1)).length registered.2.2

theorem not_disturbs_occupied : ¬Child.pool.Disturbs device pool occupied.1 := by
  have hcall : occupied.1.call = .allocateCommandBuffers (some device) (some ⟨pool, 0, 2⟩) := rfl
  rintro (⟨info, explicit, trace, code, -, he⟩ | ⟨exchange, -, hends⟩)
  · rw [he] at hcall
    cases hcall
  · rw [hcall] at hends
    cases hends

end Sample

/-- The pool is destroyed with its two command buffers, and its entry is the last to go. -/
theorem registered_or_undone_pool :
    Attains Event.Proper (session .obliging Sample.deviceOnly).1 (session .obliging Sample.deviceOnly).2 ∧
    Sample.registration.Proper (session .obliging Sample.deviceOnly).1 ∧
    Sample.registration.Leads (session .obliging Sample.deviceOnly).2 Sample.registered.2.2 ∧
    ∃ (device now : Device) (address : Address),
      (session .obliging Sample.deviceOnly).2.blocks[Sample.device.block]? = some (.device device) ∧
      Child.pool.Ending (session .obliging Sample.deviceOnly).2 Sample.device.block device (some ⟨0, 0⟩)
        (some (Sample.callbacks 3)) (some address) Sample.registered.1 .success (some Sample.pool) Sample.registered.2.2 ∧
      Child.pool.Lasting Sample.occupied.2 Sample.device.block device now Sample.pool (some (Sample.callbacks 3)) (some address) ∧
      Child.pool.dependents now Sample.pool = [⟨225280⟩, ⟨229376⟩] ∧
      ∃ undoing last, (Child.pool.destroy Sample.device Sample.pool none).Runs Sample.occupied.2 undoing () last ∧
        Child.pool.Undoes Sample.device.block device now Sample.pool (some (Sample.callbacks 3)) none (some address) undoing
          last := by
  have hattains : Attains Event.Proper (session .obliging Sample.deviceOnly).1 (session .obliging Sample.deviceOnly).2 :=
    attains_session (by decide +kernel)
  have hproper : Sample.registration.ProperForSure (session .obliging Sample.deviceOnly).1 := by decide +kernel
  have hleads : Sample.registration.Leads (session .obliging Sample.deviceOnly).2 Sample.registered.2.2 :=
    Program.runs_play .obliging _ _
  have hdevice : ((session .obliging Sample.deviceOnly).2.record? .device Sample.device).isSome := by decide +kernel
  obtain ⟨device, hrecord⟩ := Option.isSome_iff_exists.1 hdevice
  have hb := (Bridge.record?_device_iff.1 hrecord).2
  have hunknown : ∀ found ∈ (session .obliging Sample.deviceOnly).2.record? .device Sample.device,
      found.pools.contains Sample.pool = false := by decide +kernel
  have hcode : Sample.registered.2.1.1 = .success := by decide +kernel
  have hstored : Sample.registered.2.1.2 = some Sample.pool := by decide +kernel
  have hplaces : ∀ found ∈ Sample.occupied.2.record? .device Sample.device,
      CommandPool.places found Sample.pool = [⟨225280⟩, ⟨229376⟩] := by decide +kernel
  have hnext : Sample.occupied.1.ProperForSure (Sample.registration :: (session .obliging Sample.deviceOnly).1) := by
    decide +kernel
  have hled : Sample.occupied.1.Leads Sample.registered.2.2 Sample.occupied.2 := Call.leads_play ..
  obtain ⟨kept, hending, hlater⟩ := registered_or_undone hattains hb hleads
  obtain ⟨-, now, hlasting, hundone⟩ := hlater Sample.pool hstored (hunknown device hrecord) hproper.proper [Sample.occupied.1]
    Sample.occupied.2 (.step .here hnext.proper hled) (List.forall_mem_singleton.2 Sample.not_disturbs_occupied)
  obtain ⟨address, rfl⟩ := Option.isSome_iff_exists.1 hlasting.registered
  rw [hcode, hstored] at hending
  obtain ⟨⟨undoing, last, hrun⟩, hall⟩ := hundone none (by decide)
  exact ⟨hattains, hproper.proper, hleads, device, now, address, hb, hending, hlasting,
    hplaces now (Bridge.record?_device_iff.2 ⟨rfl, hlasting.found⟩), undoing, last, hrun, hall undoing last hrun⟩

end VulkanBridge
