import VulkanBridge.Proofs.CommandBuffers
import VulkanBridge.CommandPool
/-!
# Command pools

A pool that is created leaves an entry in its device's registry, or one reference more to the entry that is already
there. A pool that is destroyed takes all command buffers of its handle along, and one reference.
-/

namespace VulkanBridge

namespace Device

variable {bridge : Bridge} {owner : Address} {device : Device} {pools fences : Registry} {trace natives : Trace}
  {places : List Address}

variable [Reckoning]

/-- Only the registries of a device change. -/
theorem registries_changes (hs : (bridge.put owner (.device device)).Sound) (hp : pools.Sound) (hf : fences.Sound)
    (hc : ∀ pool, device.held pool ≠ 0 → device.held pool < pools.references pool) :
    (bridge.put owner (.device device)).Changes (bridge.put owner (.device { device with pools, fences })) owner := by
  have hsd : device.Sound (bridge.put owner (.device device)) owner := hs owner _ Bridge.blocks_put_self
  have same : device.SameDevice { device with pools, fences } := ⟨rfl, rfl, rfl, rfl, rfl⟩
  refine same.changes hs (fun _ _ _ _ => rfl) (fun _ _ hm => .inl hm) (fun _ _ hold hnew => (hnew hold).elim)
    (fun _ _ hm => hsd.commandBuffer hm) hp hf hc

/-- The registry of pools changes, and each pool with command buffers keeps its entry. -/
theorem pools_keeps (hs : (bridge.put owner (.device device)).Sound)
    (ho : (bridge.put owner (.device device)).owned.Occupies places) (hf : trace.Fresh places) (hp : pools.Sound)
    (hc : ∀ pool, device.held pool ≠ 0 → device.held pool < pools.references pool)
    (hg : ∀ pool, device.held pool ≠ 0 → pools.grant? pool = device.pools.grant? pool)
    (he : trace.Effect device.pools.owned natives pools.owned) :
    (bridge.put owner (.device device)).Keeps owner trace natives (bridge.put owner (.device { device with pools })) := by
  have hsd : device.Sound (bridge.put owner (.device device)) owner := hs owner _ Bridge.blocks_put_self
  have same : device.SameDevice { device with pools } := ⟨rfl, rfl, rfl, rfl, rfl⟩
  refine same.keeps hs ho hf (registries_changes hs hp hsd.fences hc) ?_
  rw [childrenOwned, childrenOwned]
  dsimp only
  rw [wrappersOwned_congr fun pool _ hm => show pools.get? pool = device.pools.get? pool from ?_, Multiset.add_assoc,
    Multiset.add_assoc]
  · exact he.frame _
  · rw [Registry.get?_eq, Registry.get?_eq, hg pool (held_pos hm)]

/-- The registry of fences changes. -/
theorem fences_keeps (hs : (bridge.put owner (.device device)).Sound)
    (ho : (bridge.put owner (.device device)).owned.Occupies places) (hf : trace.Fresh places) (hfences : fences.Sound)
    (he : trace.Effect device.fences.owned natives fences.owned) :
    (bridge.put owner (.device device)).Keeps owner trace natives (bridge.put owner (.device { device with fences })) := by
  have hsd : device.Sound (bridge.put owner (.device device)) owner := hs owner _ Bridge.blocks_put_self
  have same : device.SameDevice { device with fences } := ⟨rfl, rfl, rfl, rfl, rfl⟩
  refine same.keeps hs ho hf (registries_changes hs hsd.pools hfences hsd.counted) ?_
  rw [childrenOwned, childrenOwned]
  dsimp only
  rw [Multiset.add_comm device.pools.owned, Multiset.add_comm device.pools.owned, Multiset.add_assoc, Multiset.add_assoc]
  exact he.frame _

end Device

namespace Registry

variable {registry : Registry} {allocator : Allocator} {make : Option NativeCallbacks → Program (Except FailureCode NativeHandle)}
  {put : Registry → Bridge → Bridge} {before after : Bridge} {trace : Trace} {code : ResultCode} {stored : Option NativeHandle}

/-- All that entering a new object can come to, with its runs. -/
inductive EnterSteps (registry : Registry) (allocator : Allocator)
    (make : Option NativeCallbacks → Program (Except FailureCode NativeHandle)) (put : Registry → Bridge → Bridge)
    (before : Bridge) : Trace → ResultCode → Option NativeHandle → Bridge → Prop
  | scarce {preparing : Trace} {error : CallError} : (prepare allocator .object).Runs preparing (.error error) →
      EnterSteps registry allocator make put before preparing error.deviceResult none before
  | refused {preparing making discarding : Trace} {pending : Pending} {code : FailureCode} :
      (prepare allocator .object).Runs preparing (.ok pending) → (make pending.nativeCallbacks).Runs making (.error code) →
        (discard pending).Runs discarding () →
          EnterSteps registry allocator make put before (preparing ++ (making ++ discarding)) code.val none before
  | made {preparing making inserting : Trace} {pending : Pending} {handle : NativeHandle} {result : Registry} :
      (prepare allocator .object).Runs preparing (.ok pending) → (make pending.nativeCallbacks).Runs making (.ok handle) →
        (registry.insert handle pending).Runs inserting result →
          EnterSteps registry allocator make put before (preparing ++ (making ++ inserting)) .success (some handle)
            (put result before)

theorem enterSteps (h : (registry.enter allocator make put).Runs before trace (code, stored) after) :
    EnterSteps registry allocator make put before trace code stored after := by
  unfold enter at h
  simp only [Action.runs_bind_iff, Action.runs_lift_iff] at h
  obtain ⟨preparing, last, prepared, _, rfl, ⟨hp, rfl⟩, h⟩ := h
  cases prepared with
  | error error =>
    obtain ⟨rfl, he, rfl⟩ := Action.runs_pure_iff.1 h
    obtain ⟨rfl, rfl⟩ := Prod.mk.inj he
    rw [List.append_nil]
    exact .scarce hp
  | ok pending =>
  simp only [Action.runs_bind_iff, Action.runs_lift_iff] at h
  obtain ⟨making, last, made, _, rfl, ⟨hm, rfl⟩, h⟩ := h
  cases made with
  | error code =>
    simp only [Action.runs_bind_iff, Action.runs_lift_iff, Action.runs_pure_iff, Prod.mk.injEq] at h
    obtain ⟨discarding, _, _, _, rfl, ⟨hd, rfl⟩, rfl, ⟨rfl, rfl⟩, rfl⟩ := h
    rw [List.append_nil]
    exact .refused hp hm hd
  | ok handle =>
    simp only [Action.runs_bind_iff, Action.runs_lift_iff, Action.runs_modify_iff, Action.runs_pure_iff, Prod.mk.injEq] at h
    obtain ⟨inserting, _, result, _, rfl, ⟨hi, rfl⟩, _, _, _, _, rfl, ⟨rfl, rfl⟩, rfl, ⟨rfl, rfl⟩, rfl⟩ := h
    rw [List.append_nil, List.append_nil]
    exact .made hp hm hi

/-- Either an object is made and registered, or nothing is kept. `making` is the one exchange with the native driver. -/
theorem runs_enter [Reckoning] {making : Option NativeCallbacks → Except FailureCode NativeHandle → Exchange}
    (hs : registry.Sound) (hf : allocator.Returns)
    (hl : ∀ handle : NativeHandle, stored = some handle → registry.references handle + 1 < 2 ^ 32)
    (hm : ∀ callbacks trace answer, (make callbacks).Runs trace answer → trace = [making callbacks answer])
    (he : ∀ callbacks answer, Trace.Effect 0 [making callbacks answer] [making callbacks answer] 0)
    (h : (registry.enter allocator make put).Runs before trace (code, stored) after) :
    (∃ pending handle result, stored = some handle ∧ pending.allocator = allocator ∧
        registry.Registers pending (making pending.nativeCallbacks (.ok handle)) handle trace result ∧
          after = put result before) ∨
      (stored = none ∧ after = before ∧ ∃ natives, trace.Effect 0 natives 0 ∧ (natives = [] ∨ ∃ address code,
        natives = [making (allocator.nativeCallbacks (.record address)) (.error code)])) := by
  cases enterSteps h with
  | scarce hp =>
    rcases runs_prepare hp with ⟨_, hprepared, -⟩ | ⟨-, hi⟩
    · cases hprepared
    · exact .inr ⟨rfl, rfl, [], hi.effect 0, .inl rfl⟩
  | @refused preparing creating discarding pending code hp hc hd =>
    rcases runs_prepare hp with ⟨_, hprepared, rfl, hp, -⟩ | ⟨hprepared, -⟩
    case inr => cases hprepared
    cases hprepared
    obtain rfl := hm _ _ _ hc
    have hmade := (he pending.nativeCallbacks (.error code)).frame {pending.grant}
    rw [Multiset.zero_add] at hmade
    exact .inr ⟨rfl, rfl, _, hp.append (hmade.append (runs_discard hf hd)), .inr ⟨pending.address, code, rfl⟩⟩
  | @made preparing creating inserting pending handle result hp hc hi =>
    rcases runs_prepare hp with ⟨_, hprepared, rfl, hp, hkept⟩ | ⟨hprepared, -⟩
    case inr => cases hprepared
    cases hprepared
    obtain rfl := hm _ _ _ hc
    have hins := insert_inserts hs hf (hl handle rfl) hi
    exact .inl ⟨pending, handle, result, rfl, rfl, ⟨preparing, inserting, rfl, hp, hkept, hins⟩, rfl⟩

end Registry

namespace CommandPool

variable {bridge after : Bridge} {handle : Option Handle} {info : Option PoolInfo} {explicit : Option CallbackSet}
  {trace : Trace} {owner : Address} {device : Device} {places : List Address}

/-- The command buffers of a pool that goes, in order. -/
def own (device : Device) (pool : NativeHandle) : List (NativeHandle × Address) :=
  device.commandBuffers.toList.filter (CommandBuffer.ofPool pool)

/-- What is left without the command buffers of a pool. -/
theorem elements_without_own {pool : NativeHandle} {left : LiveCommandBuffers}
    (h : elements device.commandBuffers = (own device pool : Multiset _) + elements left) :
    elements left = (elements device.commandBuffers).filter (·.1 ≠ pool) := by
  have hown : ((own device pool : List _) : Multiset _) = (elements device.commandBuffers).filter (·.1 = pool) := by
    rw [elements, Multiset.filter_coe, own]
    exact congrArg _ (List.filter_congr fun entry _ => Bool.eq_iff_iff.2 (by simp [CommandBuffer.ofPool_iff]))
  rw [hown] at h
  exact Multiset.add_right_inj.1 (h.symm.trans (Multiset.filter_add_not _ _).symm)

variable [Reckoning]

/-- A pool was made, with an entry for its callbacks. -/
structure Made (bridge : Bridge) (handle : Option Handle) (info : Option PoolInfo) (explicit : Option CallbackSet)
    (trace : Trace) (after : Bridge) (owner : Address) (device : Device) (pending : Registry.Pending)
    (pool : NativeHandle) (pools : Registry) : Prop where
  handle : handle = some owner.toHandle
  found : bridge.blocks[owner]? = some (.device device)
  allocator : pending.allocator = Allocator.merge explicit device.allocator
  registers : device.pools.Registers pending
    (.native (.createPool device.native info pending.nativeCallbacks) (.ok pool)) pool trace pools
  left : after = bridge.put owner (.device { device with pools })

/-- Either a pool is made, or nothing is kept. -/
theorem runs_create {code : ResultCode} {stored : Option NativeHandle} (hs : bridge.Sound)
    (hf : ∀ set ∈ explicit, set.Returns)
    (hl : ∀ (owner : Address) (device : Device) (pool : NativeHandle), handle = some owner.toHandle →
      bridge.blocks[owner]? = some (.device device) → stored = some pool → device.pools.references pool + 1 < 2 ^ 32)
    (h : (create handle info explicit).Runs bridge trace (code, stored) after) :
    (∃ owner device pending pool pools, stored = some pool ∧
        Made bridge handle info explicit trace after owner device pending pool pools) ∨
      (stored = none ∧ after = bridge ∧ ∃ natives, trace.Effect 0 natives 0 ∧
        (natives = [] ∨ ∃ device parent context code, bridge.Bequeaths parent ∧ natives =
          [.native (.createPool device info ((Allocator.merge explicit parent).nativeCallbacks context)) (.error code)])) := by
  unfold create at h
  rw [Action.runs_bind_iff] at h
  obtain ⟨resolving, last, resolved, between, rfl, hr, h⟩ := h
  obtain ⟨rfl, ⟨owner, device, hh, hb, rfl, rfl⟩ | ⟨-, rfl, hi⟩⟩ := hs.runs_resolve hr rfl
  · have hsd : device.Sound bridge owner := hs owner _ hb
    rw [List.nil_append]
    have hsteps := Registry.runs_enter hsd.pools (Allocator.returns_merge hsd.free hf)
      (fun pool => hl owner device pool hh hb) (fun _ _ _ => Program.runs_native_iff.1) (fun _ _ => .native rfl 0) h
    rcases hsteps with ⟨pending, pool, pools, rfl, hpending, hregisters, rfl⟩ | ⟨rfl, rfl, natives, he, hnatives⟩
    · exact .inl ⟨owner, device, pending, pool, pools, rfl, hh, hb, hpending, hregisters, rfl⟩
    · refine .inr ⟨rfl, rfl, natives, he, hnatives.imp_right ?_⟩
      rintro ⟨address, code, rfl⟩
      exact ⟨device.native, device.allocator, .record address, code, .inr ⟨owner, _, hb, rfl⟩, rfl⟩
  · obtain ⟨rfl, he, rfl⟩ := Action.runs_pure_iff.1 h
    obtain ⟨-, rfl⟩ := Prod.mk.inj he
    exact .inr ⟨rfl, rfl, [], .before_idle (hi.effect 0) Trace.idle_nil, .inl rfl⟩

/-- What is owned once a pool is made. -/
theorem Made.keeps {pending : Registry.Pending} {pool : NativeHandle} {pools : Registry}
    (h : Made bridge handle info explicit trace after owner device pending pool pools) (hs : bridge.Sound)
    (ho : bridge.owned.Occupies places) (hf : trace.Fresh places) :
    bridge.Keeps owner trace [.native (.createPool device.native info pending.nativeCallbacks) (.ok pool)] after := by
  have hsd : device.Sound bridge owner := hs owner _ h.found
  have hself := Bridge.put_self h.found
  obtain ⟨first, last, -, -, -, hins⟩ := h.registers
  rw [← hself] at hs ho
  have := Device.pools_keeps hs ho hf hins.sound (fun other hheld => ?_) (fun other hheld => ?_) (h.registers.effect rfl)
  · rwa [hself, ← h.left] at this
  · have := hsd.counted other hheld
    have := hins.references other
    omega
  · by_cases heq : other = pool
    · subst heq
      cases hg : device.pools.grant? other with
      | none =>
        have := hsd.counted other hheld
        rw [Registry.references_of_none (Registry.grant?_eq_none_iff.1 hg)] at this
        omega
      | some grant => exact (hins.known grant hg).1
    · exact hins.others other heq

/-- What a call says to the native driver when it destroys a pool. -/
def destruction (device : Device) (pool : NativeHandle) (explicit : Option CallbackSet) : Exchange :=
  .native (.destroyPool device.native pool
    ((Allocator.merge explicit ((device.pools.get? pool).getD device.allocator)).nativeCallbacks .call)) ()

/-- A pool was destroyed: first the native pool, then the command buffers of its handle, then one reference. -/
structure Destroyed (bridge : Bridge) (handle : Option Handle) (pool : NativeHandle) (explicit : Option CallbackSet)
    (trace : Trace) (after : Bridge) (owner : Address) (device changed : Device) : Prop where
  handle : handle = some owner.toHandle
  found : bridge.blocks[owner]? = some (.device device)
  first : ∃ rest, trace = destruction device pool explicit :: rest
  keeps : bridge.Keeps owner trace [destruction device pool explicit] after
  left : after.blocks[owner]? = some (.device changed)
  same : device.SameDevice changed
  fences : changed.fences = device.fences
  commandBuffers : elements changed.commandBuffers = (elements device.commandBuffers).filter (·.1 ≠ pool)
  references : changed.pools.references pool + device.held pool + 1 = device.pools.references pool
  surplus : ∀ other, other ≠ pool →
    changed.pools.references other + device.held other = device.pools.references other + changed.held other
  entries : ∀ other, other ≠ pool → changed.pools.grant? other = device.pools.grant? other
  spares : ∀ other grant, other ≠ pool → device.pools.grant? other = some grant →
    ∀ exchange ∈ trace, exchange.returned? ≠ some grant.address
  sparesFences : ∀ grant ∈ device.fences.owned, ∀ exchange ∈ trace, exchange.returned? ≠ some grant.address

theorem runs_destroy {pool : NativeHandle} {result : Unit} (hs : bridge.Sound) (ho : bridge.owned.Occupies places)
    (hf : trace.Fresh places)
    (hk : ∀ (owner : Address) (device : Device), handle = some owner.toHandle →
      bridge.blocks[owner]? = some (.device device) → pool ≠ 0 → device.pools.grant? pool ≠ none)
    (h : (destroy handle pool explicit).Runs bridge trace result after) :
    (∃ owner device changed, pool ≠ 0 ∧ Destroyed bridge handle pool explicit trace after owner device changed) ∨
      (after = bridge ∧ trace.Idle ∧ (pool = 0 ∨ bridge.Lacks .device handle)) := by
  unfold destroy at h
  split at h
  case isTrue hz =>
    obtain ⟨rfl, -, rfl⟩ := Action.runs_pure_iff.1 h
    exact .inr ⟨rfl, Trace.idle_nil, .inl hz⟩
  case isFalse hz =>
  rw [Action.runs_bind_iff] at h
  obtain ⟨resolving, last, resolved, between, rfl, hr, h⟩ := h
  obtain ⟨rfl, ⟨owner, device, hh, hb, rfl, rfl⟩ | ⟨hno, rfl, hi⟩⟩ := hs.runs_resolve hr rfl
  · have hself := Bridge.put_self hb
    rw [List.nil_append] at *
    simp only [Action.runs_bind_iff, Action.runs_lift_iff, Action.runs_modify_iff] at h
    obtain ⟨_, _, _, _, rfl, ⟨hd, rfl⟩, freeing, _, device₁, between, rfl, hfree, releasing, _, pools', _, rfl, ⟨hrel, rfl⟩,
      rfl, rfl⟩ := h
    obtain rfl := Program.runs_native_iff.1 hd
    obtain ⟨-, hlast⟩ := Trace.fresh_append_iff.1 hf
    rw [List.append_nil] at *
    obtain ⟨hfreeing, hreleasing⟩ := Trace.fresh_append_iff.1 hlast
    have hdestruction : bridge.Keeps owner [destruction device pool explicit] [destruction device pool explicit] bridge :=
      hs.keeps_still ho (Trace.fresh_append_iff.1 hf).1 rfl (.native rfl 0) owner
    have ho := hdestruction.effect.accounts.occupies ho (Trace.fresh_append_iff.1 hf).1
    rw [← hself] at hs ho
    -- First the command buffers of the pool go, which leaves the pool's own references.
    obtain ⟨hk₁, hr₁, hgone⟩ := CommandBuffer.drain_keeps hs ho hfreeing hfree
    have ho₁ := hk₁.effect.accounts.occupies ho hfreeing
    have hcommandBuffers := elements_without_own hgone
    have hsd₁ : device₁.Sound (between.put owner (.device device₁)) owner := hk₁.sound owner _ Bridge.blocks_put_self
    have hheld : device₁.held pool = 0 := by
      rw [Device.held, hcommandBuffers, Multiset.countP_eq_zero]
      exact fun entry he => (Multiset.mem_filter.1 he).2
    -- Then one of these references goes.
    have hR := Registry.release_releases hsd₁.pools (by rw [hr₁.entries]; exact hk owner device hh hb hz) hrel
    have hk₂ := Device.pools_keeps hk₁.sound ho₁ hreleasing hR.sound
      (fun other hne => by
        have := hsd₁.counted other hne
        have := hR.references other
        have : pool ≠ other := by
          rintro rfl
          exact hne hheld
        rw [if_neg this] at *
        omega)
      (fun other hne => hR.others other fun heq => hne (heq ▸ hheld)) hR.effect
    -- Neither step frees what is registered before and after it.
    have hspares (grant : Grant) (hg : grant ∈ device.pools.owned + device.fences.owned)
        (hg₁ : grant ∈ pools'.owned + device₁.fences.owned) :
        ∀ exchange ∈ destruction device pool explicit :: (freeing ++ releasing),
          exchange.returned? ≠ some grant.address := by
      refine Trace.spares_native_append fun exchange hm => ?_
      obtain hm | hm := List.mem_append.1 hm
      · exact hr₁.spares ho hfreeing hg exchange hm
      · obtain ⟨rest, hrest⟩ := Device.exists_owned_put between owner device₁
        rw [hrest, Device.childrenOwned, Multiset.add_assoc, Multiset.add_assoc] at ho₁
        refine hR.spares ho₁ hreleasing (Multiset.mem_add.2 ?_) exchange hm
        exact (Multiset.mem_add.1 hg₁).imp_right fun hfence => Multiset.mem_add.2 (.inl hfence)
    rw [hself] at hk₁
    refine .inl ⟨owner, device, { device₁ with pools := pools' }, hz, ⟨hh, hb, ⟨_, rfl⟩, ?_, ?_, ?_, ?_, ?_, ?_, ?_, ?_, ?_, ?_⟩⟩
    · exact hdestruction.trans (hk₁.trans hk₂)
    · exact Bridge.blocks_put_self
    · have := hr₁.same
      exact ⟨this.header, this.native, this.allocator, this.families, this.familyBlock⟩
    · exact hr₁.fences
    · exact hcommandBuffers
    · have h₁ := hr₁.surplus pool
      have h₂ := hR.references pool
      rw [if_pos rfl] at h₂
      rw [hheld] at h₁
      dsimp only
      omega
    · intro other hne
      have h₁ := hr₁.surplus other
      have h₂ := hR.references other
      rw [if_neg (Ne.symm hne)] at h₂
      dsimp only [Device.held] at *
      omega
    · intro other hne
      rw [hR.others other hne, hr₁.entries]
    · intro other grant hne hg
      have hg₁ : pools'.grant? other = some grant := by rw [hR.others other hne, hr₁.entries, hg]
      exact hspares grant (Multiset.mem_add.2 (.inl (Registry.mem_owned_of_grant? hg)))
        (Multiset.mem_add.2 (.inl (Registry.mem_owned_of_grant? hg₁)))
    · intro grant hg
      exact hspares grant (Multiset.mem_add.2 (.inr hg)) (Multiset.mem_add.2 (.inr (hr₁.fences.symm ▸ hg)))
  · obtain ⟨rfl, -, rfl⟩ := Action.runs_pure_iff.1 h
    exact .inr ⟨rfl, Trace.idle_append_iff.2 ⟨hi, Trace.idle_nil⟩, .inr hno⟩

end CommandPool

end VulkanBridge
