import VulkanBridge.Proofs.Freeing
/-!
# All command buffers of a request, or none

The records for a request are made one after another. If memory runs out, those made so far go back in the order in which
they were made, the native handles in them take their places in the caller's array again, and the native command buffers
are freed in one call. Then the state is the one before, whichever record could not be had.
-/

namespace VulkanBridge

namespace CommandBuffer

variable {bridge after between : Bridge} {owner : Address} {device changed middle : Device} {pool : NativeHandle}
  {allocator : Allocator} {new later : List Address} {natives others : List NativeHandle} {trace : Trace}
  {places : List Address}

/-- Records have been made at these places for these native command buffers, in order, where there was nothing before. -/
structure Makes (bridge : Bridge) (owner : Address) (device : Device) (pool : NativeHandle) (new : List Address)
    (natives : List NativeHandle) (after : Bridge) (changed : Device) : Prop where
  gains : device.Gains pool new changed
  same : bridge.SameElsewhere after new
  wraps : Wraps after owner pool new natives
  distinct : new.Nodup
  apart : owner ∉ new
  vacant : ∀ place ∈ new, bridge.blocks[place]? = none

theorem Wraps.found (h : Wraps bridge owner pool new natives) {place : Address} (hm : place ∈ new) :
    bridge.blocks[place]? ≠ none := by
  induction h with
  | nil => cases hm
  | cons hfound _ ih =>
    obtain rfl | hm := List.mem_cons.1 hm
    · rw [hfound]
      exact nofun
    · exact ih hm

namespace Makes

theorem refl (bridge : Bridge) (owner : Address) (hp : device.pools.get? pool = some allocator) :
    Makes bridge owner device pool [] [] bridge device :=
  ⟨.refl hp, .refl bridge [], .nil, List.nodup_nil, nofun, nofun⟩

theorem trans (hf : Makes bridge owner device pool new natives between middle)
    (hl : Makes between owner middle pool later others after changed) :
    Makes bridge owner device pool (new ++ later) (natives ++ others) after changed := by
  -- What is made later is made where nothing was, so not at a place where a record was made before.
  have hdisjoint : ∀ place ∈ new, place ∉ later := fun place hnew hlater => hf.wraps.found hnew (hl.vacant place hlater)
  constructor
  · exact hf.gains.trans hl.gains
  · exact hf.same.trans hl.same
  · exact List.rel_append (Wraps.kept hf.wraps fun place hm => hl.same.blocks place (hdisjoint place hm)) hl.wraps
  · exact List.nodup_append.2 ⟨hf.distinct, hl.distinct, fun place hm other ho he => hdisjoint place hm (he ▸ ho)⟩
  · rw [List.mem_append, not_or]
    exact ⟨hf.apart, hl.apart⟩
  · intro place hm
    obtain hm | hm := List.mem_append.1 hm
    · exact hf.vacant place hm
    · rw [← hf.same.blocks place fun hnew => hdisjoint place hnew hm]
      exact hl.vacant place hm

/-- Making records and giving the same up again leaves nothing behind. -/
theorem undone (hm : Makes bridge owner device pool new natives between middle)
    (hv : Vacates between middle pool new after changed) : after = bridge ∧ changed = device := by
  refine ⟨?_, hm.gains.left_unique hv.gains⟩
  refine ((hm.same.trans hv.same).mono (by simp : new ++ new ⊆ new)).eq fun place hplace => ?_
  rw [hv.gone place hplace, hm.vacant place hplace]

end Makes

variable [Reckoning]

/-- One record is made, or nothing happens but the failed allocation. -/
theorem runs_wrap_live {native : NativeHandle} {outcome : Except CallError Address}
    (hs : (bridge.put owner (.device device)).Sound)
    (ho : (bridge.put owner (.device device)).owned.Occupies places) (hf : trace.Fresh places)
    (hp : device.pools.get? pool = some allocator) (hl : device.pools.references pool + 1 < 2 ^ 32)
    (h : (wrap owner device pool allocator native).Runs bridge trace (changed, outcome) after) :
    (∃ address, outcome = .ok address ∧ trace = allocator.asks .commandBuffer .object (some address) ∧
        (pool, address) ∉ device.commandBuffers ∧ Makes bridge owner device pool [address] [native] after changed) ∨
      (outcome = .error .outOfHostMemory ∧ trace = allocator.asks .commandBuffer .object none ∧ after = bridge ∧
        changed = device) := by
  obtain ⟨entry, he, rfl⟩ := Registry.get?_eq_some_iff.1 hp
  have hsd : device.Sound (bridge.put owner (.device device)) owner := hs owner _ Bridge.blocks_put_self
  obtain ⟨-, -, hends⟩ := wrap_keeps hs ho hf hp hl h
  obtain ⟨address, rfl, rfl, rfl, rfl, -⟩ | ⟨rfl, rfl, rfl, rfl, -⟩ := runs_wrap_known he (hsd.pools pool entry he).1 h
  · obtain ⟨_, ⟨⟩, hout, -, hvacant⟩ := hends.resolve_right nofun
    have hne : address ≠ owner := by
      rintro rfl
      rw [Bridge.blocks_put_self] at hvacant
      cases hvacant
    rw [Bridge.blocks_put hne] at hvacant
    refine .inl ⟨address, rfl, rfl, hout, gains_gaining he hl hout, .put bridge address _, .cons Bridge.blocks_put_self .nil,
      List.nodup_singleton _, ?_, ?_⟩
    · rw [List.mem_singleton]
      exact hne.symm
    · intro place hm
      rwa [List.mem_singleton.1 hm]
  · exact .inr ⟨rfl, rfl, rfl, rfl⟩

/-- Records are made for all native command buffers that are left, each in one exchange. Or one cannot be had; then those
made so far and those `made` before are given up, and the native handles of all are back in their places. -/
theorem runs_wrapAll {wrapped : List NativeHandle} {made : List Address}
    {outcome : Except (CallError × List NativeHandle) (List Address)} (hs : (bridge.put owner (.device device)).Sound)
    (ho : (bridge.put owner (.device device)).owned.Occupies places) (hf : trace.Fresh places)
    (hp : device.pools.get? pool = some allocator) (hl : device.pools.references pool + natives.length < 2 ^ 32)
    (hn : made.Nodup) (hm : ∀ address ∈ made, (pool, address) ∈ device.commandBuffers)
    (hwrapped : Wraps bridge owner pool made wrapped)
    (h : (wrapAll owner pool allocator device made natives).Runs bridge trace (changed, outcome) after) :
    (∃ new, outcome = .ok (made ++ new) ∧
        trace = new.flatMap (fun place => allocator.asks .commandBuffer .object (some place)) ∧
        Makes bridge owner device pool new natives after changed) ∨
      ∃ new between middle, new.length < natives.length ∧ outcome = .error (.outOfHostMemory, wrapped ++ natives) ∧
        trace = new.flatMap (fun place => allocator.asks .commandBuffer .object (some place)) ++
          (allocator.asks .commandBuffer .object none ++ (made ++ new).flatMap (allocator.returns .commandBuffer)) ∧
        Makes bridge owner device pool new (natives.take new.length) between middle ∧
        Vacates between middle pool (made ++ new) after changed := by
  induction natives generalizing bridge device made wrapped trace places with
  | nil =>
    obtain ⟨rfl, he, rfl⟩ := Action.runs_pure_iff.1 h
    obtain ⟨rfl, rfl⟩ := Prod.mk.inj he
    exact .inl ⟨[], by rw [List.append_nil], rfl, .refl bridge owner hp⟩
  | cons native rest ih =>
    rw [wrapAll, Action.runs_bind_iff] at h
    obtain ⟨first, last, ⟨device', outcome'⟩, between, rfl, hw, hrest⟩ := h
    obtain ⟨hfirst, hlast⟩ := Trace.fresh_append_iff.1 hf
    rw [List.length_cons] at hl
    obtain ⟨hk, -, -⟩ := wrap_keeps hs ho hfirst hp (by omega) hw
    obtain ⟨address, rfl, rfl, hout, hmade⟩ | ⟨rfl, rfl, rfl, rfl⟩ := runs_wrap_live hs ho hfirst hp (by omega) hw
    · have hwrapped' : Wrapped between owner device' pool (made ++ [address]) (wrapped ++ [native]) := by
        refine Wrapped.append ⟨hn, hm, hwrapped⟩ hout (fun entry hentry => (hmade.gains.live entry).2 ?_)
          (List.forall₂_cons.1 hmade.wraps).1 fun other hne => hmade.same.blocks other (mt List.mem_singleton.1 hne)
        simpa using hentry
      have hl' : device'.pools.references pool + rest.length < 2 ^ 32 := by
        rw [hmade.gains.references, List.length_singleton]
        omega
      obtain ⟨new, rfl, rfl, hnew⟩ | ⟨new, peak, middle, hshort, rfl, rfl, hnew, hv⟩ :=
        ih hk.sound (hk.effect.accounts.occupies ho hfirst) hlast ((hmade.gains.allocators pool).trans hp) hl'
          hwrapped'.nodup hwrapped'.live hwrapped'.wraps hrest
      · exact .inl ⟨[address] ++ new, by rw [List.append_assoc], rfl, hmade.trans hnew⟩
      · rw [List.append_assoc] at hv
        refine .inr ⟨[address] ++ new, peak, middle, Nat.succ_lt_succ hshort, by simp, by simp, ?_, hv⟩
        exact hmade.trans hnew
    · -- The records made before are given up, and say which native handles stood in their places.
      dsimp only at hrest
      rw [Action.runs_bind_iff] at hrest
      obtain ⟨undoing, _, ⟨unwrapped, restored⟩, left, rfl, hrestore, hpure⟩ := hrest
      obtain ⟨rfl, he, rfl⟩ := Action.runs_pure_iff.1 hpure
      obtain ⟨rfl, rfl⟩ := Prod.mk.inj he
      obtain rfl := restores_of_wraps hn hwrapped hrestore
      obtain ⟨rfl, -, hv⟩ := runs_unwrapAll_live hk.sound (hk.effect.accounts.occupies ho hfirst) hp hn hm
        (unwraps_of_restoreAll hrestore)
      refine .inr ⟨[], _, _, Nat.succ_pos _, rfl, by simp, .refl _ owner hp, ?_⟩
      rwa [List.append_nil]

end CommandBuffer

section Use

variable {history : List Event} {before after : Bridge} {owner : Address} {device : Device} {allocator : Allocator}
  {request : CommandBufferRequest} {trace : Trace} {code : ResultCode} {stored : Option (List (Option Handle))}

/-- A request for command buffers of a known pool ends in one of three ways. The native driver refuses, and its code is
all there is. Or each native command buffer gets a record, obtained in one exchange; the array holds the handles of these
in order, the device has them as live command buffers besides, and the pool's entry counts them. Or a record cannot be
had: those made before it go back in order, the native driver gets back all it gave in one call, the array is filled with
nulls, and the state is as before. -/
theorem allocated_all_or_none (h : Attains Event.Proper history before)
    (hf : trace.Fresh (Trace.held [] (traceOf history))) (hd : before.blocks[owner]? = some (.device device))
    (hp : device.pools.get? request.pool = some allocator)
    (hl : device.pools.references request.pool + request.count.toNat < 2 ^ 32)
    (hr : (CommandBuffer.allocate (some owner.toHandle) (some request)).Runs before trace (code, stored) after) :
    (∃ failure : FailureCode, code = failure.val ∧ stored = none ∧ after = before ∧
      trace = [.native (.allocateCommandBuffers device.native request) (.error failure)]) ∨
    ∃ (natives : Vector NativeHandle request.count.toNat) (following : Trace),
      trace = .native (.allocateCommandBuffers device.native request) (.ok natives) :: following ∧
      ((code = .success ∧ ∃ (new : List Address) (changed : Device),
          stored = some (new.map fun place => some place.toHandle) ∧
          following = new.flatMap (fun place => allocator.asks .commandBuffer .object (some place)) ∧
          CommandBuffer.Wraps after owner request.pool new natives.toList ∧ new.Nodup ∧
          (∀ place ∈ new, before.blocks[place]? = none) ∧ after.blocks[owner]? = some (.device changed) ∧
          device.Gains request.pool new changed ∧ before.SameElsewhere after (owner :: new)) ∨
        (code = .outOfHostMemory ∧ stored = some (List.replicate request.count.toNat none) ∧ after = before ∧
          ∃ made : List Address, made.length < request.count.toNat ∧ made.Nodup ∧
            following = made.flatMap (fun place => allocator.asks .commandBuffer .object (some place)) ++
              (allocator.asks .commandBuffer .object none ++ made.flatMap (allocator.returns .commandBuffer)) ++
                [.native (.freeCommandBuffers device.native request.pool natives.toList) ()])) := by
  let _ : Reckoning := ⟨False⟩
  have hs : Settled history before := h.settled_of_proper id
  have hrecord : before.record? .device owner.toHandle = some device := Bridge.record?_device_iff.2 ⟨rfl, hd⟩
  unfold CommandBuffer.allocate at hr
  obtain ⟨_, rfl, hrun⟩ := (hs.sound.tagged.tells_resolve hrecord).runs_bind hr
  simp only [hp] at hrun
  rw [Action.runs_bind_iff] at hrun
  obtain ⟨calling, last, answered, between, rfl, hcall, hrun⟩ := hrun
  obtain ⟨hnative, rfl⟩ := Action.runs_lift_iff.1 hcall
  have hidle := Program.idle_native (fun _ => rfl) _ _ hnative
  obtain rfl := Program.runs_native_iff.1 hnative
  cases answered with
  | error failure =>
    obtain ⟨rfl, he, rfl⟩ := Action.runs_pure_iff.1 hrun
    obtain ⟨rfl, rfl⟩ := Prod.mk.inj he
    exact .inl ⟨failure, rfl, rfl, rfl, rfl⟩
  | ok natives =>
    have hself := Bridge.put_self hd
    obtain ⟨hfirst, hlast⟩ := Trace.fresh_append_iff.1 hf
    have ho := (hidle.effect before.owned).accounts.occupies hs.occupies hfirst
    rw [Action.runs_bind_iff] at hrun
    obtain ⟨wrapping, last, ⟨changed, outcome⟩, wrapped, rfl, hw, hrun⟩ := hrun
    obtain ⟨new, rfl, rfl, hmade⟩ | ⟨made, peak, middle, hshort, rfl, rfl, hmade, hv⟩ :=
      CommandBuffer.runs_wrapAll (hself.symm ▸ hs.sound) (hself.symm ▸ ho) (Trace.fresh_append_iff.1 hlast).1 hp
        (by simpa using hl) List.nodup_nil nofun .nil hw
    · simp only [Action.runs_bind_iff, Action.runs_modify_iff, Action.runs_pure_iff, Prod.mk.injEq] at hrun
      obtain ⟨_, _, _, _, rfl, ⟨rfl, rfl⟩, rfl, ⟨rfl, rfl⟩, rfl⟩ := hrun
      have hwraps : CommandBuffer.Wraps (wrapped.put owner (.device changed)) owner request.pool new natives.toList :=
        CommandBuffer.Wraps.kept hmade.wraps fun place hm => Bridge.blocks_put fun he => hmade.apart (he ▸ hm)
      refine .inr ⟨natives, _, rfl, .inl ⟨rfl, new, changed, rfl, by simp, hwraps, hmade.distinct, hmade.vacant,
        Bridge.blocks_put_self, hmade.gains, ?_⟩⟩
      exact (hmade.same.trans (.put wrapped owner _)).mono fun place hplace => by simpa [or_comm] using hplace
    · obtain ⟨rfl, rfl⟩ := hmade.undone hv
      simp only [Action.runs_bind_iff, Action.runs_modify_iff, Action.runs_lift_iff, Action.runs_pure_iff, Prod.mk.injEq] at hrun
      obtain ⟨_, _, _, _, rfl, ⟨rfl, rfl⟩, freeing, _, _, _, rfl, ⟨hfree, rfl⟩, rfl, ⟨rfl, rfl⟩, rfl⟩ := hrun
      obtain rfl := Program.runs_native_iff.1 hfree
      refine .inr ⟨natives, _, rfl, .inr ⟨rfl, ?_, hself, made, by simpa using hshort, hmade.distinct, ?_⟩⟩
      · simp
      · simp

end Use

namespace Sample

/-- An instance, a device and a pool, before there are command buffers. -/
def idlePool : List Call := calls.drop 3

/-- The third of the records that come after the pool cannot be had. -/
def scarce : Environment
  | 56, .callback (.allocate ..) => none
  | number, request => Environment.obliging number request

/-- What a request for some command buffers comes to then. -/
def scarceRequest (count : UInt32) : Trace × (ResultCode × Option (List (Option Handle))) × Bridge :=
  ((CommandBuffer.allocate (some device) (some ⟨pool, 0, count⟩)).run (session .obliging idlePool).2).play scarce
    (traceOf (session .obliging idlePool).1).length

theorem runs_scarceRequest (count : UInt32) :
    (CommandBuffer.allocate (some device) (some ⟨pool, 0, count⟩)).Runs (session .obliging idlePool).2
      (scarceRequest count).1 ((scarceRequest count).2.1.1, (scarceRequest count).2.1.2) (scarceRequest count).2.2 :=
  Program.runs_play scarce _ _

theorem attains_idlePool : Attains Event.Proper (session .obliging idlePool).1 (session .obliging idlePool).2 :=
  attains_session (by decide +kernel)

end Sample

/-- Of five records the third cannot be had: there are five nulls in the array, and the state is as before. -/
theorem allocated_all_or_none_scarce :
    Attains Event.Proper (session .obliging Sample.idlePool).1 (session .obliging Sample.idlePool).2 ∧
    (Sample.scarceRequest 5).1.Fresh (Trace.held [] (traceOf (session .obliging Sample.idlePool).1)) ∧
    ∃ (device : Device) (allocator : Allocator),
      (session .obliging Sample.idlePool).2.blocks[Sample.device.block]? = some (.device device) ∧
      device.pools.get? Sample.pool = some allocator ∧ device.pools.references Sample.pool + 5 < 2 ^ 32 ∧
      (Sample.scarceRequest 5).2.1.1 = .outOfHostMemory ∧
      (Sample.scarceRequest 5).2.1.2 = some (List.replicate 5 none) ∧
      (Sample.scarceRequest 5).2.2 = (session .obliging Sample.idlePool).2 ∧ (Sample.scarceRequest 5).1.length = 7 := by
  have hfresh : (Sample.scarceRequest 5).1.Fresh (Trace.held [] (traceOf (session .obliging Sample.idlePool).1)) := by
    decide +kernel
  have hdevice : ((session .obliging Sample.idlePool).2.record? .device Sample.device).isSome := by decide +kernel
  obtain ⟨device, hrecord⟩ := Option.isSome_iff_exists.1 hdevice
  have hd := (Bridge.record?_device_iff.1 hrecord).2
  have hknown : (((session .obliging Sample.idlePool).2.record? .device Sample.device).bind
      (·.pools.get? Sample.pool)).isSome := by decide +kernel
  rw [hrecord, Option.bind_some] at hknown
  obtain ⟨allocator, hp⟩ := Option.isSome_iff_exists.1 hknown
  have hone : ((session .obliging Sample.idlePool).2.record? .device Sample.device).map
      (·.pools.references Sample.pool) = some 1 := by decide +kernel
  have hl : device.pools.references Sample.pool + 5 < 2 ^ 32 := by
    rw [hrecord, Option.map_some, Option.some.injEq] at hone
    rw [hone]
    decide
  have hcode : (Sample.scarceRequest 5).2.1.1 = .outOfHostMemory := by decide +kernel
  have hlength : (Sample.scarceRequest 5).1.length = 7 := by decide +kernel
  obtain ⟨failure, -, -, -, ht⟩ | ⟨_, _, -, ⟨hsuccess, -⟩ | ⟨-, hstored, hafter, -⟩⟩ :=
    allocated_all_or_none Sample.attains_idlePool hfresh hd hp hl (Sample.runs_scarceRequest 5)
  · rw [ht] at hlength
    cases hlength
  · exact absurd (hcode.symm.trans hsuccess) (by decide)
  · exact ⟨Sample.attains_idlePool, hfresh, device, allocator, hd, hp, hl, hcode, hstored, hafter, hlength⟩

end VulkanBridge
