import VulkanBridge.Proofs.Environment
import VulkanBridge.Proofs.Valid
/-!
# Contexts of callbacks

A pool, and a fence with callbacks of its own, calls back through a copy of its callbacks that lies in an entry of its
device's registry. The native driver is told the place of the copy while the handle of the object is not known yet.

`context_spared_iff` says which copies stay in place until the native object is destroyed: all but those of objects whose
handle the registry knows already. `Registry.insert` gives the new entry up then, though the native driver has just been
told of it.
-/

namespace VulkanBridge

namespace Child

/-- At this step of a call, the native driver is told to destroy the object of a handle, or its device. -/
def ends (child : Child) (owner : Handle) (handle : NativeHandle) : Call × Exchange → Bool
  | (.destroyPool (some device) destroyed _, ⟨.native (.destroyPool ..), _⟩) =>
    child = pool && device = owner && destroyed = handle
  | (.destroyFence (some device) destroyed _, ⟨.native (.destroyFence ..), _⟩) =>
    child = fence && device = owner && destroyed = handle
  | (.destroyDevice (some device) _, ⟨.native (.destroyDevice ..), _⟩) => device = owner
  | _ => false

/-- The entry of a handle has this block. -/
def Remembered (child : Child) (bridge : Bridge) (owner : Address) (handle : NativeHandle) (grant : Grant) : Prop :=
  ∃ device, bridge.blocks[owner]? = some (.device device) ∧ (child.registry device).grant? handle = some grant

end Child

/-- The event creates a pool, or a fence with callbacks of its own, and has the native driver call back through the
record at an address, which has these callbacks. -/
inductive Event.Creates (owner : Handle) (handle : NativeHandle) (address : Address) (callbacks : Callbacks) :
    Child → Event → Prop
  | pool {info : Option PoolInfo} {explicit : Option CallbackSet} {trace : Trace} {code : ResultCode}
      {native : NativeHandle} :
      .native (.createPool native info (some ⟨.record address, callbacks⟩)) (.ok handle) ∈ trace →
        Creates owner handle address callbacks .pool ⟨.createPool (some owner) info explicit, trace, (code, some handle)⟩
  | fence {info : Option FenceInfo} {set : CallbackSet} {trace : Trace} {code : ResultCode} {native : NativeHandle} :
      .native (.createFence native info (some ⟨.record address, callbacks⟩)) (.ok handle) ∈ trace →
        Creates owner handle address callbacks .fence
          ⟨.createFence (some owner) info (some set), trace, (code, some handle)⟩

/-- What was asked for and answered over a whole use, in order, each with its call. -/
def stepsOf : List Event → List (Call × Exchange)
  | [] => []
  | event :: history => stepsOf history ++ event.trace.map (event.call, ·)

/-- A block is not given back before one of these steps. -/
def SparedUntil (address : Address) (ends : Call × Exchange → Bool) : List (Call × Exchange) → Prop
  | [] => True
  | step :: rest => ends step ∨ (step.2.returned? ≠ some address ∧ SparedUntil address ends rest)

section Spared

variable {address : Address} {ends : Call × Exchange → Bool} {first last : List (Call × Exchange)} {call : Call}
  {trace : Trace}

theorem sparedUntil_append_iff : SparedUntil address ends (first ++ last) ↔
    SparedUntil address ends first ∧ (first.any ends ∨ SparedUntil address ends last) := by
  induction first with
  | nil => simp [SparedUntil]
  | cons step rest ih =>
    rw [List.cons_append, SparedUntil, SparedUntil, ih, List.any_cons, Bool.or_eq_true]
    by_cases h : ends step
    · simp [h]
    · simp [h, and_assoc]

/-- A call that does not end anything has to leave the block alone. -/
theorem sparedUntil_map_iff (hn : ∀ exchange, ends (call, exchange) = false) :
    SparedUntil address ends (trace.map (call, ·)) ↔ ∀ exchange ∈ trace, exchange.returned? ≠ some address := by
  induction trace with
  | nil => simp [SparedUntil]
  | cons exchange rest ih => simp [SparedUntil, hn, ih]

theorem sparedUntil_of_spares (h : ∀ exchange ∈ trace, exchange.returned? ≠ some address) :
    SparedUntil address ends (trace.map (call, ·)) := by
  induction trace with
  | nil => trivial
  | cons exchange rest ih =>
    exact .inr ⟨h exchange (List.mem_cons_self ..), ih fun other hm => h other (List.mem_cons_of_mem _ hm)⟩

end Spared

/-! ## Blocks of entries -/

namespace Child

variable {child : Child} {device : Device} {handle : NativeHandle} {grant : Grant}

theorem mem_owned_registries (h : (child.registry device).grant? handle = some grant) :
    grant ∈ device.pools.owned + device.fences.owned := by
  have h := Registry.mem_owned_of_grant? h
  cases child with
  | pool => exact Multiset.mem_add.2 (.inl h)
  | fence => exact Multiset.mem_add.2 (.inr h)

theorem mem_owned (h : (child.registry device).grant? handle = some grant) (owner : Address) :
    grant ∈ device.owned owner := by
  rw [Device.owned, Device.childrenOwned]
  exact Multiset.mem_add.2 (.inr (Multiset.mem_add.2 (.inl (mem_owned_registries h))))

end Child

section Step

variable [Reckoning] {bridge after : Bridge} {owner other : Address} {event : Event} {places : List Address}
  {child : Child} {handle : NativeHandle} {grant : Grant} {natives : Trace}

/-- An event of another owner leaves an entry and its block. -/
theorem Bridge.Keeps.remembered (hk : bridge.Keeps other event.trace natives after) (hne : owner ≠ other)
    (hr : child.Remembered bridge owner handle grant) :
    (∀ exchange ∈ event.trace, exchange.returned? ≠ some grant.address) ∧ child.Remembered after owner handle grant := by
  obtain ⟨device, hb, hg⟩ := hr
  refine ⟨hk.spares grant ?_, device, (hk.others owner (.device device) hne trivial).2 hb, hg⟩
  have hb' : (bridge.remove other).blocks[owner]? = some (.device device) := by rw [Bridge.blocks_remove hne, hb]
  exact Multiset.mem_of_le (Bridge.owned_le hb') (Child.mem_owned hg owner)

/-- Registering leaves the entries there are, and their blocks. -/
theorem Registry.Registers.remembered {registry result : Registry} {pending : Registry.Pending} {created : NativeHandle}
    {call : NativeCall} {answer : call.Answer}
    (h : registry.Registers pending (.native call answer) created event.trace result)
    (ho : bridge.owned.Occupies places) (hf : event.trace.Fresh places) (hm : grant ∈ bridge.owned)
    (hg : registry.grant? handle = some grant) :
    (∀ exchange ∈ event.trace, exchange.returned? ≠ some grant.address) ∧ result.grant? handle = some grant := by
  refine ⟨h.spares ho hf hm, ?_⟩
  obtain ⟨first, last, -, -, -, hi⟩ := h
  by_cases heq : handle = created
  · subst heq
    exact (hi.known grant hg).1
  · rw [hi.others handle heq, hg]

/-- An event leaves an entry and its block, or begins by telling the native driver to destroy the object of the entry's
handle, or its device. -/
theorem Outcome.remembered (h : Outcome bridge other event after) (hk : bridge.Keeps other event.trace natives after)
    (ho : bridge.owned.Occupies places) (hf : event.trace.Fresh places) (hr : child.Remembered bridge owner handle grant) :
    (∃ exchange rest, event.trace = exchange :: rest ∧ child.ends owner.toHandle handle (event.call, exchange)) ∨
      ((∀ exchange ∈ event.trace, exchange.returned? ≠ some grant.address) ∧
        child.Remembered after owner handle grant) := by
  by_cases hne : owner = other
  case neg => exact .inr (hk.remembered hne hr)
  subst hne
  obtain ⟨device, hb, hg⟩ := hr
  have hmem : grant ∈ bridge.owned := Multiset.mem_of_le (Bridge.owned_le hb) (Child.mem_owned hg owner)
  -- From here on the event is about the device whose entry it is.
  have same {found : Device} (hfound : bridge.blocks[owner]? = some (.device found)) : found = device := by
    rw [hb] at hfound
    cases hfound
    rfl
  have noInst {record : Instance} : bridge.blocks[owner]? ≠ some (.inst record) := by
    rw [hb]
    exact nofun
  cases h with
  | kept hblocks he _ _ =>
    refine .inr ⟨he.accounts.spares (by rwa [Multiset.zero_add]) hf hmem, device, ?_, hg⟩
    rw [hblocks, hb]
  | createdInstance hnone _ _ =>
    rw [hb] at hnone
    cases hnone
  | populated hinst _ _ => exact (noInst hinst).elim
  | destroyedInstance hinst _ _ => exact (noInst hinst).elim
  | createdDevice hapart _ _ =>
    rw [hapart.place] at hb
    cases hb
  | destroyedDevice hd =>
    obtain ⟨rest, rfl⟩ := hd.first
    exact .inl ⟨_, rest, rfl, by simp [Child.ends, Device.destruction, Exchange.native]⟩
  | createdPool hm _ =>
    obtain rfl := same hm.found
    obtain rfl := hm.left
    cases child with
    | pool =>
      obtain ⟨hs, hg⟩ := hm.registers.remembered ho hf hmem hg
      exact .inr ⟨hs, _, Bridge.blocks_put_self, hg⟩
    | fence => exact .inr ⟨hm.registers.spares ho hf hmem, _, Bridge.blocks_put_self, hg⟩
  | @destroyedPool _ _ _ changed pool _ _ hd =>
    obtain rfl := same hd.found
    cases child with
    | pool =>
      by_cases heq : handle = pool
      · subst heq
        obtain ⟨rest, rfl⟩ := hd.first
        exact .inl ⟨_, rest, rfl, by simp [Child.ends, CommandPool.destruction, Exchange.native]⟩
      · exact .inr ⟨hd.spares handle grant heq hg, changed, hd.left, (hd.entries handle heq).trans hg⟩
    | fence =>
      have hfences : changed.fences.grant? handle = some grant := by rw [hd.fences]; exact hg
      exact .inr ⟨hd.sparesFences grant (Registry.mem_owned_of_grant? hg), changed, hd.left, hfences⟩
  | allocated hr _ _ | freed hr _ _ =>
    obtain rfl := same hr.found
    have hself := Bridge.put_self hb
    refine .inr ⟨hr.regroups.spares (hself.symm ▸ ho) hf (Child.mem_owned_registries hg), _, hr.left, ?_⟩
    cases child with
    | pool => exact (hr.regroups.entries handle).trans hg
    | fence =>
      rw [Child.registry, hr.regroups.fences]
      exact hg
  | createdFence hm _ =>
    obtain rfl := same hm.found
    obtain rfl := hm.left
    cases child with
    | pool => exact .inr ⟨hm.registers.spares ho hf hmem, _, Bridge.blocks_put_self, hg⟩
    | fence =>
      obtain ⟨hs, hg⟩ := hm.registers.remembered ho hf hmem hg
      exact .inr ⟨hs, _, Bridge.blocks_put_self, hg⟩
  | createdPlainFence hfound _ =>
    refine .inr ⟨fun exchange hm => ?_, device, hb, hg⟩
    rw [List.mem_singleton.1 hm]
    exact nofun
  | @destroyedFence _ _ _ fence _ _ _ hd =>
    obtain rfl := same hd.found
    obtain rfl := hd.left
    cases child with
    | pool => exact .inr ⟨hd.sparesPools grant (Registry.mem_owned_of_grant? hg), _, Bridge.blocks_put_self, hg⟩
    | fence =>
      by_cases heq : handle = fence
      · subst heq
        obtain ⟨rest, rfl⟩ := hd.first
        exact .inl ⟨_, rest, rfl, by simp [Child.ends, Fence.destruction, Exchange.native]⟩
      · exact .inr ⟨hd.spares handle grant heq hg, _, Bridge.blocks_put_self, (hd.entries handle heq).trans hg⟩

end Step

/-! ## Creations -/

section Creation

variable {bridge after : Bridge} {owner : Handle} {place : Address} {event : Event} {places : List Address}
  {child : Child} {handle : NativeHandle} {address : Address} {callbacks : Callbacks} {natives : Trace} {device : Device}
  {registry result : Registry} {pending : Registry.Pending}

theorem Registry.Pending.of_nativeCallbacks (h : pending.nativeCallbacks = some ⟨.record address, callbacks⟩) :
    pending.allocator = .custom callbacks ∧ pending.address = address := by
  unfold nativeCallbacks Allocator.nativeCallbacks Allocator.callbacks? at h
  cases ha : pending.allocator with
  | system => simp [ha] at h
  | custom found =>
    simp only [ha, Option.map_some, Option.some.injEq, NativeCallbacks.mk.injEq, CallbackContext.record.injEq] at h
    exact ⟨by rw [h.2], h.1⟩

/-- A device with other registries owns the same if their blocks are the same. -/
theorem Device.owned_of_registries {pools fences : Registry} (hp : pools.owned = device.pools.owned)
    (hf : fences.owned = device.fences.owned) (hg : ∀ pool, pools.grant? pool = device.pools.grant? pool) (owner : Address) :
    Device.owned owner { device with pools, fences } = device.owned owner := by
  have hw : Device.wrappersOwned pools device.commandBuffers = Device.wrappersOwned device.pools device.commandBuffers :=
    Device.wrappersOwned_congr fun pool _ _ => Registry.get?_congr (hg pool)
  unfold Device.owned Device.childrenOwned
  dsimp only
  rw [hp, hf, hw]
  rfl

variable [Reckoning]

/-- A handle that is known already has the entry it had. -/
theorem Registry.Inserts.same {trace : Trace} (h : registry.Inserts handle pending trace result)
    (hk : registry.grant? handle ≠ none) :
    (∀ other, result.grant? other = registry.grant? other) ∧ result.owned = registry.owned := by
  obtain ⟨grant, hg⟩ := Option.ne_none_iff_exists'.1 hk
  obtain ⟨hr, ho, -⟩ := h.known grant hg
  refine ⟨fun other => ?_, ho⟩
  by_cases heq : other = handle
  · rw [heq, hr, hg]
  · exact h.others other heq

/-- What a creation comes to: the registry gets the pending entry of the callbacks. -/
structure Child.Created (child : Child) (bridge : Bridge) (place : Address) (handle : NativeHandle) (trace : Trace)
    (after : Bridge) (device changed : Device) (pending : Registry.Pending) : Prop where
  found : bridge.blocks[place]? = some (.device device)
  left : after.blocks[place]? = some (.device changed)
  registers : ∃ (call : NativeCall) (answer : call.Answer),
    (child.registry device).Registers pending (.native call answer) handle trace (child.registry changed)
  owned : (child.registry device).grant? handle ≠ none → after.owned = bridge.owned

theorem Event.Creates.created (h : event.Creates owner handle address callbacks child) (ho : Outcome bridge place event after) :
    ∃ device changed pending, owner = place.toHandle ∧ pending.allocator = .custom callbacks ∧ pending.address = address ∧
      child.Created bridge place handle event.trace after device changed pending := by
  have owned {device changed : Device} {trace natives : Trace} {last : Bridge} (hk : bridge.Keeps place trace natives last)
      (hb : bridge.blocks[place]? = some (.device device)) (hl : last.blocks[place]? = some (.device changed))
      (he : changed.owned place = device.owned place) : last.owned = bridge.owned := by
    rw [Bridge.owned_eq last place, Bridge.owned_eq bridge place, hk.owned_remove, Bridge.ownedAt_of_some hb,
      Bridge.ownedAt_of_some hl]
    exact congrArg (· + _) he
  cases h with
  | @pool info explicit trace code native hm =>
    cases ho with
    | kept _ _ _ hl => exact absurd (hl [] fun _ hm => absurd hm List.not_mem_nil) (List.cons_ne_nil _ _)
    | @createdPool _ _ _ _ device pending _ pools _ hmade hk =>
      obtain rfl := hmade.left
      have hm := Trace.mem_lifecycle hm rfl
      rw [hk.effect.lifecycle, List.mem_singleton] at hm
      obtain ⟨-, -, hcallbacks⟩ := NativeCall.createPool.inj (Request.native.inj (Exchange.mk.inj hm).1)
      obtain ⟨hallocator, haddress⟩ := Registry.Pending.of_nativeCallbacks hcallbacks.symm
      refine ⟨device, { device with pools }, pending, rfl, hallocator, haddress, hmade.found, Bridge.blocks_put_self,
        ⟨_, _, hmade.registers⟩, fun hknown => ?_⟩
      obtain ⟨_, _, -, -, -, hi⟩ := hmade.registers
      obtain ⟨hg, hpools⟩ := hi.same hknown
      exact owned hk hmade.found Bridge.blocks_put_self (Device.owned_of_registries hpools rfl hg place)
  | @fence info set trace code native hm =>
    cases ho with
    | kept _ _ _ hl => exact absurd (hl [] fun _ hm => absurd hm List.not_mem_nil) (List.cons_ne_nil _ _)
    | @createdFence _ _ _ _ device pending _ fences _ hmade hk =>
      obtain rfl := hmade.left
      have hm := Trace.mem_lifecycle hm rfl
      rw [hk.effect.lifecycle, List.mem_singleton] at hm
      obtain ⟨-, -, hcallbacks⟩ := NativeCall.createFence.inj (Request.native.inj (Exchange.mk.inj hm).1)
      obtain ⟨hallocator, haddress⟩ := Registry.Pending.of_nativeCallbacks hcallbacks.symm
      refine ⟨device, { device with fences }, pending, rfl, hallocator, haddress, hmade.found, Bridge.blocks_put_self,
        ⟨_, _, hmade.registers⟩, fun hknown => ?_⟩
      obtain ⟨_, _, -, -, -, hi⟩ := hmade.registers
      obtain ⟨-, hfences⟩ := hi.same hknown
      exact owned hk hmade.found Bridge.blocks_put_self (Device.owned_of_registries rfl hfences (fun _ => rfl) place)

namespace Child.Created

variable {trace : Trace} {changed : Device}

/-- A known handle's new entry is given back at once, if its callbacks can free. -/
theorem returned (h : child.Created bridge place handle trace after device changed pending)
    (ha : pending.allocator = .custom callbacks) (hk : (child.registry device).contains handle)
    (hf : callbacks.free.isSome) : ∃ exchange ∈ trace, exchange.returned? = some pending.address := by
  obtain ⟨call, answer, first, last, rfl, -, -, hi⟩ := h.registers
  obtain ⟨-, exchange, hm, hr⟩ | ⟨hnone, -⟩ :=
    Registry.runs_discard_custom ha (hi.discarded (Registry.contains_iff_grant?.1 hk))
  · exact ⟨exchange, List.mem_append.2 (.inr (List.mem_cons_of_mem _ hm)), hr⟩
  · rw [hnone] at hf
    cases hf

/-- Otherwise it stays: the registry takes it, or there is no way to give it back. -/
theorem stays (h : child.Created bridge place handle trace after device changed pending)
    (ha : pending.allocator = .custom callbacks) (ho : bridge.owned.Occupies places) (hf : trace.Fresh places)
    (hn : ¬((child.registry device).contains handle ∧ callbacks.free.isSome)) :
    (∀ exchange ∈ trace, exchange.returned? ≠ some pending.address) ∧
      (child.Remembered after place handle pending.grant ∨
        (after.owned + {pending.grant}).Occupies (Trace.held places trace)) := by
  obtain ⟨call, answer, first, last, rfl, hfirst, hkept, hi⟩ := h.registers
  have spared (hlast : last = []) : ∀ exchange ∈ first ++ .native call answer :: last,
      exchange.returned? ≠ some pending.address := by
    subst hlast
    intro exchange hm
    obtain hm | hm := List.mem_append.1 hm
    · rw [hkept exchange hm]
      exact nofun
    · rw [List.mem_singleton.1 hm]
      exact Exchange.returned?_native _ _ _
  by_cases hk : (child.registry device).grant? handle = none
  · obtain ⟨hg, -, hlast⟩ := hi.unknown hk
    exact ⟨spared hlast, .inl ⟨changed, h.left, hg⟩⟩
  · obtain ⟨hfree, -⟩ | ⟨-, rfl⟩ := Registry.runs_discard_custom ha (hi.discarded hk)
    · exact (hn ⟨Registry.contains_iff_grant?.2 hk, hfree⟩).elim
    · refine ⟨spared rfl, .inr ?_⟩
      have he := (hfirst.frame bridge.owned).accounts
      rw [Multiset.zero_add] at he
      obtain ⟨hf₁, hf₂⟩ := Trace.fresh_append_iff.1 hf
      rw [h.owned hk, Multiset.add_comm, Trace.held_append]
      exact Exchange.Settles.occupies (.still rfl rfl) (he.occupies ho hf₁) hf₂.1

end Child.Created

end Creation

/-! ## Whole uses -/

theorem stepsOf_append (later earlier : List Event) : stepsOf (later ++ earlier) = stepsOf earlier ++ stepsOf later := by
  induction later with
  | nil => exact (List.append_nil _).symm
  | cons event later ih => rw [List.cons_append, stepsOf, stepsOf, ih, List.append_assoc]

section Run

variable [Reckoning] {history later : List Event} {bridge after : Bridge} {owner other : Address} {event : Event}
  {child : Child} {handle : NativeHandle} {grant : Grant} {natives : Trace}

/-- An entry has the block, or the block is held and no record has it. -/
def Child.Stays (child : Child) (history : List Event) (bridge : Bridge) (owner : Address) (handle : NativeHandle)
    (grant : Grant) : Prop :=
  child.Remembered bridge owner handle grant ∨ (bridge.owned + {grant}).Occupies (Trace.held [] (traceOf history))

namespace Child.Stays

/-- Such a block is spared at an event, and is one thereafter unless its end has come. -/
theorem step (h : child.Stays history bridge owner handle grant) (hi : Invariant history bridge)
    (ho : Outcome bridge other event after) (hk : bridge.Keeps other event.trace natives after)
    (hf : event.trace.Fresh (Trace.held [] (traceOf history))) :
    SparedUntil grant.address (child.ends owner.toHandle handle) (event.trace.map (event.call, ·)) ∧
      ((event.trace.map (event.call, ·)).any (child.ends owner.toHandle handle) ∨
        child.Stays (event :: history) after owner handle grant) := by
  obtain hr | hlost := h
  · obtain ⟨exchange, rest, ht, he⟩ | ⟨hs, hr⟩ := ho.remembered hk hi.occupies hf hr
    · rw [ht, List.map_cons]
      exact ⟨.inl he, .inl (by rw [List.any_cons, he]; rfl)⟩
    · exact ⟨sparedUntil_of_spares hs, .inr (.inl hr)⟩
  · have hs := hk.effect.accounts.spares hlost hf (Multiset.mem_singleton_self grant)
    refine ⟨sparedUntil_of_spares hs, .inr (.inr ?_)⟩
    rw [traceOf_cons, Trace.held_append]
    exact (hk.effect.accounts.frame {grant}).occupies hlost hf

/-- Such a block is spared over the rest of a use, until its end. -/
theorem run (grant : Grant) (hn : ¬Reckoning.strict) (h : Reaches Event.Proper (later ++ history) bridge)
    (hs : ∀ middle, Reaches Event.Proper history middle → child.Stays history middle owner handle grant) :
    SparedUntil grant.address (child.ends owner.toHandle handle) (stepsOf later) ∧
      ((stepsOf later).any (child.ends owner.toHandle handle) ∨ child.Stays (later ++ history) bridge owner handle grant) := by
  induction later generalizing bridge with
  | nil => exact ⟨trivial, .inr (hs bridge h)⟩
  | cons event later ih =>
    cases h with
    | step h ha hl =>
      obtain ⟨hspared, hstays⟩ := ih h
      rw [stepsOf, sparedUntil_append_iff, List.any_append, Bool.or_eq_true]
      obtain hend | hstays := hstays
      · exact ⟨⟨hspared, .inl hend⟩, .inl (.inl hend)⟩
      · have hi : Invariant _ _ := h.invariant (fun _ _ => id) fun _ _ _ _ _ hs => absurd hs hn
        have hp := ha.permitted hi.agrees fun _ _ hs => absurd hs hn
        obtain ⟨other, natives, ho, hk⟩ := hi.outcome hp ha.fresh hl
        obtain ⟨hspared', hnext⟩ := hstays.step hi ho hk ha.fresh
        exact ⟨⟨hspared, .inr hspared'⟩, hnext.imp_left .inr⟩

end Child.Stays

/-- The registry of a device knows no handles but those of live objects. -/
theorem Agrees.exists_of_contains {live : List Object} {device : Device} (h : Agrees bridge live) (hs : bridge.Sound)
    (hb : bridge.blocks[owner]? = some (.device device)) (hc : (child.registry device).contains handle) :
    ∃ object ∈ live, object.owner = owner.toHandle ∧ child.describes handle object := by
  rw [Registry.contains_iff_grant?] at hc
  by_contra hn
  have hnone (object : Object) (hm : object ∈ objectsOf owner.toHandle live) : ¬child.describes handle object := by
    obtain ⟨hm, ho⟩ := mem_objectsOf.1 hm
    exact fun hd => hn ⟨object, hm, ho, hd⟩
  cases child with
  | pool => exact hc (h.pool_unknown hs hb hnone)
  | fence => exact hc (h.fence_unknown hs hb hnone)

end Run

/-- The copy of callbacks that the native driver calls back through is given back before the native object is destroyed
exactly if, at its creation, the registry knows the handle already and the callbacks can free. No registry knows a handle
that no live object has. -/
theorem context_spared_iff {later earlier : List Event} {event : Event} {bridge : Bridge} {owner : Handle}
    {handle : NativeHandle} {address : Address} {callbacks : Callbacks} {child : Child}
    (h : Reaches Event.Proper (later ++ event :: earlier) bridge)
    (hc : event.Creates owner handle address callbacks child) :
    ∃ before device, Reaches Event.Proper earlier before ∧ before.record? .device owner = some device ∧
      (SparedUntil address (child.ends owner handle) (stepsOf (later ++ [event])) ↔
        ¬((child.registry device).contains handle ∧ callbacks.free.isSome)) ∧
      ((child.registry device).contains handle →
        ∃ object ∈ liveAfter earlier, object.owner = owner ∧ child.describes handle object) := by
  let _ : Reckoning := ⟨False⟩
  obtain ⟨middle, hmiddle⟩ := Reaches.exists_before h
  cases id hmiddle with
  | @step _ before _ _ hbefore ha hl =>
    have hi : Invariant earlier before := hbefore.invariant (fun _ _ => id) fun _ _ _ _ _ hs => hs.elim
    obtain ⟨place, natives, ho, hk⟩ := hi.outcome (ha.permitted hi.agrees fun _ _ hs => hs.elim) ha.fresh hl
    obtain ⟨device, changed, pending, rfl, hallocator, rfl, hcreated⟩ := hc.created ho
    refine ⟨before, device, hbefore, Bridge.record?_device_iff.2 ⟨rfl, hcreated.found⟩, ?_,
      hi.agrees.exists_of_contains hi.sound hcreated.found⟩
    have hends (exchange : Exchange) : child.ends place.toHandle handle (event.call, exchange) = false := by
      cases hc <;> rfl
    rw [stepsOf_append, sparedUntil_append_iff]
    rw [show stepsOf [event] = event.trace.map (event.call, ·) from List.nil_append _, sparedUntil_map_iff hends]
    constructor
    · rintro ⟨hspared, -⟩ ⟨hknown, hfree⟩
      obtain ⟨exchange, hm, hr⟩ := hcreated.returned hallocator hknown hfree
      exact hspared exchange hm hr
    · intro hn
      obtain ⟨hspared, hstays⟩ := hcreated.stays hallocator hi.occupies ha.fresh hn
      refine ⟨hspared, .inr (Child.Stays.run pending.grant id h fun middle' hmiddle' => ?_).1⟩
      obtain rfl := hmiddle.unique hmiddle'
      rwa [Child.Stays, traceOf_cons, Trace.held_append]

/-! ## A handle twice -/

namespace Sample

/-- The callbacks of the sample's device as they are resolved for it. -/
def resolved : Callbacks := ⟨⟨2⟩, some ⟨1⟩, some ⟨2⟩, some ⟨3⟩, none⟩

/-- The native driver gives all pools the same handle, and is obliging otherwise. -/
def repeating : Environment
  | _, .native (.createPool ..) => .ok pool
  | number, request => Environment.obliging number request

/-- A device and two pools that both inherit its callbacks. -/
def twoPools : List Call :=
  [.createPool (some device) (some ⟨0, 0⟩) none,
   .createPool (some device) (some ⟨0, 0⟩) none,
   .createDevice (some physicalDevice) (some ⟨0, 0, .present [⟨0, 1⟩]⟩) (some (callbacks 2)) true,
   .enumeratePhysicalDevices (some inst) (some 1) true,
   .createInstance (some ⟨0, 0, 0⟩) (some (callbacks 1)) true]

/-- The latter pool is created: the native driver is told of the copy at an address, which is free again right after. -/
def secondPool : Event where
  call := .createPool (some device) (some ⟨0, 0⟩) none
  trace :=
    [⟨.callback (.allocate ⟨1⟩ ⟨2⟩ 72 8 .object), some ⟨221184⟩⟩,
     .native (.createPool 24 (some ⟨0, 0⟩) (some ⟨.record ⟨221184⟩, resolved⟩)) (.ok pool),
     ⟨.callback (.free ⟨3⟩ ⟨2⟩ (some ⟨221184⟩)), ()⟩]
  answer := (.success, some pool)

theorem twoPools_eq : (session repeating twoPools).1 = secondPool :: (session repeating twoPools.tail).1 := rfl

theorem secondPool_creates : secondPool.Creates device pool ⟨221184⟩ resolved .pool :=
  .pool (.tail _ (.head _))

theorem reaches_twoPools : Reaches Event.Proper (secondPool :: (session repeating twoPools.tail).1)
    (session repeating twoPools).2 := by
  have h : Reaches Event.ProperForSure (session repeating twoPools).1 (session repeating twoPools).2 :=
    reaches_session _ (by decide +kernel)
  rw [twoPools_eq] at h
  exact h.mono fun _ _ => Event.ProperForSure.proper

end Sample

/-- The registry knows the handle of the latter pool from the former one, so its copy of the callbacks is not spared. -/
theorem context_spared_iff_twoPools :
    Reaches Event.Proper ([] ++ Sample.secondPool :: (session Sample.repeating Sample.twoPools.tail).1)
      (session Sample.repeating Sample.twoPools).2 ∧
    Sample.secondPool.Creates Sample.device Sample.pool ⟨221184⟩ Sample.resolved .pool ∧
    ∃ before device, Reaches Event.Proper (session Sample.repeating Sample.twoPools.tail).1 before ∧
      before.record? .device Sample.device = some device ∧
      (SparedUntil ⟨221184⟩ (Child.pool.ends Sample.device Sample.pool) (stepsOf ([] ++ [Sample.secondPool])) ↔
        ¬(device.pools.contains Sample.pool ∧ Sample.resolved.free.isSome)) := by
  obtain ⟨before, device, hbefore, hdevice, hspared, -⟩ :=
    context_spared_iff (show Reaches _ ([] ++ _) _ from Sample.reaches_twoPools) Sample.secondPool_creates
  exact ⟨Sample.reaches_twoPools, Sample.secondPool_creates, before, device, hbefore, hdevice, hspared⟩

/-- Not every copy that the native driver is told of stays in place until the native object is destroyed. -/
theorem not_context_spared : ¬∀ (later earlier : List Event) (event : Event) (bridge : Bridge) (owner : Handle)
    (handle : NativeHandle) (address : Address) (callbacks : Callbacks) (child : Child),
    Reaches Event.Proper (later ++ event :: earlier) bridge → event.Creates owner handle address callbacks child →
      SparedUntil address (child.ends owner handle) (stepsOf (later ++ [event])) := by
  intro h
  have h := h [] _ Sample.secondPool _ _ _ _ _ _ Sample.reaches_twoPools Sample.secondPool_creates
  -- The last step of the creation gives the copy back, and no step before it destroys anything.
  obtain hends | ⟨-, hends | ⟨-, hends | ⟨hreturned, -⟩⟩⟩ := h
  · exact absurd hends (by decide)
  · exact absurd hends (by decide)
  · exact absurd hends (by decide)
  · exact hreturned rfl

end VulkanBridge
