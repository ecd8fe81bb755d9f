import VulkanBridge.Proofs.Pools
import VulkanBridge.Fence
/-!
# Fences

A fence with explicit callbacks leaves an entry in its device's registry, a fence without them leaves nothing. A
fence that is destroyed gives up a reference if its handle has an entry.
-/

namespace VulkanBridge.Fence

variable {bridge after : Bridge} {handle : Option Handle} {info : Option FenceInfo} {explicit : Option CallbackSet}
  {trace : Trace} {owner : Address} {device : Device} {places : List Address} {fence : NativeHandle}

variable [Reckoning]

/-- A fence was made with explicit callbacks, with an entry for them. -/
structure Made (bridge : Bridge) (handle : Option Handle) (info : Option FenceInfo) (set : CallbackSet) (trace : Trace)
    (after : Bridge) (owner : Address) (device : Device) (pending : Registry.Pending) (fence : NativeHandle)
    (fences : Registry) : Prop where
  handle : handle = some owner.toHandle
  found : bridge.blocks[owner]? = some (.device device)
  allocator : pending.allocator = Allocator.merge (some set) device.allocator
  registers : device.fences.Registers pending
    (.native (.createFence device.native info pending.nativeCallbacks) (.ok fence)) fence trace fences
  left : after = bridge.put owner (.device { device with fences })

/-- What a call says to the native driver when it creates a fence without explicit callbacks. -/
def plainCreation (owner : Address) (device : Device) (info : Option FenceInfo) (fence : NativeHandle) : Exchange :=
  .native (.createFence device.native info (device.allocator.nativeCallbacks (.record owner))) (.ok fence)

/-- Either a fence is made, with or without an entry, or nothing is kept. -/
theorem runs_create {code : ResultCode} {stored : Option NativeHandle} (hs : bridge.Sound)
    (hf : ∀ set ∈ explicit, set.Returns)
    (hl : ∀ (owner : Address) (device : Device) (fence : NativeHandle), handle = some owner.toHandle →
      bridge.blocks[owner]? = some (.device device) → explicit.isSome → stored = some fence →
        device.fences.references fence + 1 < 2 ^ 32)
    (h : (create handle info explicit).Runs bridge trace (code, stored) after) :
    (∃ set owner device pending fence fences, explicit = some set ∧ stored = some fence ∧
        Made bridge handle info set trace after owner device pending fence fences) ∨
      (∃ (owner : Address) (device : Device) (fence : NativeHandle), explicit = none ∧ stored = some fence ∧
        handle = some owner.toHandle ∧ bridge.blocks[owner]? = some (.device device) ∧ after = bridge ∧
          trace = [plainCreation owner device info fence]) ∨
      (stored = none ∧ after = bridge ∧ ∃ natives, trace.Effect 0 natives 0 ∧
        (natives = [] ∨ ∃ device parent context code, bridge.Bequeaths parent ∧ natives =
          [.native (.createFence device info ((Allocator.merge explicit parent).nativeCallbacks context)) (.error code)])) := by
  unfold create at h
  rw [Action.runs_bind_iff] at h
  obtain ⟨resolving, last, resolved, between, rfl, hr, h⟩ := h
  obtain ⟨rfl, ⟨owner, device, hh, hb, rfl, rfl⟩ | ⟨-, rfl, hi⟩⟩ := hs.runs_resolve hr rfl
  · have hsd : device.Sound bridge owner := hs owner _ hb
    rw [List.nil_append]
    cases explicit with
    | none =>
      simp only [Action.runs_bind_iff, Action.runs_lift_iff] at h
      obtain ⟨creating, last, created, _, rfl, ⟨hc, rfl⟩, h⟩ := h
      obtain rfl := Program.runs_native_iff.1 hc
      cases created with
      | ok fence =>
        obtain ⟨rfl, he, rfl⟩ := Action.runs_pure_iff.1 h
        obtain ⟨-, rfl⟩ := Prod.mk.inj he
        exact .inr (.inl ⟨owner, device, fence, rfl, rfl, hh, hb, rfl, rfl⟩)
      | error code =>
        obtain ⟨rfl, he, rfl⟩ := Action.runs_pure_iff.1 h
        obtain ⟨-, rfl⟩ := Prod.mk.inj he
        exact .inr (.inr ⟨rfl, rfl, _, .native rfl 0, .inr ⟨_, device.allocator, _, code, .inr ⟨owner, _, hb, rfl⟩, rfl⟩⟩)
    | some set =>
      have hsteps := Registry.runs_enter hsd.fences (Allocator.returns_merge hsd.free hf)
        (fun fence => hl owner device fence hh hb rfl) (fun _ _ _ => Program.runs_native_iff.1) (fun _ _ => .native rfl 0) h
      rcases hsteps with ⟨pending, fence, fences, rfl, hpending, hregisters, rfl⟩ | ⟨rfl, rfl, natives, he, hnatives⟩
      · exact .inl ⟨set, owner, device, pending, fence, fences, rfl, rfl, hh, hb, hpending, hregisters, rfl⟩
      · refine .inr (.inr ⟨rfl, rfl, natives, he, hnatives.imp_right ?_⟩)
        rintro ⟨address, code, rfl⟩
        exact ⟨device.native, device.allocator, .record address, code, .inr ⟨owner, _, hb, rfl⟩, rfl⟩
  · obtain ⟨rfl, he, rfl⟩ := Action.runs_pure_iff.1 h
    obtain ⟨-, rfl⟩ := Prod.mk.inj he
    exact .inr (.inr ⟨rfl, rfl, [], .before_idle (hi.effect 0) Trace.idle_nil, .inl rfl⟩)

/-- What is owned once a fence is made with explicit callbacks. -/
theorem Made.keeps {set : CallbackSet} {pending : Registry.Pending} {fences : Registry}
    (h : Made bridge handle info set trace after owner device pending fence fences) (hs : bridge.Sound)
    (ho : bridge.owned.Occupies places) (hf : trace.Fresh places) :
    bridge.Keeps owner trace [.native (.createFence device.native info pending.nativeCallbacks) (.ok fence)] after := by
  have hself := Bridge.put_self h.found
  obtain ⟨first, last, -, -, -, hins⟩ := h.registers
  rw [← hself] at hs ho
  have := Device.fences_keeps hs ho hf hins.sound (h.registers.effect rfl)
  rwa [hself, ← h.left] at this

/-- What a call says to the native driver when it destroys a fence. -/
def destruction (device : Device) (fence : NativeHandle) (explicit : Option CallbackSet) : Exchange :=
  .native (.destroyFence device.native fence
    ((Allocator.merge explicit ((device.fences.get? fence).getD device.allocator)).nativeCallbacks .call)) ()

/-- A fence was destroyed: first the native fence, and then a reference of its handle goes, if it has any. -/
structure Destroyed (bridge : Bridge) (handle : Option Handle) (fence : NativeHandle) (explicit : Option CallbackSet)
    (trace : Trace) (after : Bridge) (owner : Address) (device : Device) (fences : Registry) : Prop where
  handle : handle = some owner.toHandle
  found : bridge.blocks[owner]? = some (.device device)
  first : ∃ rest, trace = destruction device fence explicit :: rest
  keeps : bridge.Keeps owner trace [destruction device fence explicit] after
  left : after = bridge.put owner (.device { device with fences })
  references : ∀ other, fences.references other = device.fences.references other - if fence = other then 1 else 0
  entries : ∀ other, other ≠ fence → fences.grant? other = device.fences.grant? other
  spares : ∀ other grant, other ≠ fence → device.fences.grant? other = some grant →
    ∀ exchange ∈ trace, exchange.returned? ≠ some grant.address
  sparesPools : ∀ grant ∈ device.pools.owned, ∀ exchange ∈ trace, exchange.returned? ≠ some grant.address

theorem runs_destroy {result : Unit} (hs : bridge.Sound) (ho : bridge.owned.Occupies places) (hf : trace.Fresh places)
    (h : (destroy handle fence explicit).Runs bridge trace result after) :
    (∃ owner device fences, fence ≠ 0 ∧ Destroyed bridge handle fence explicit trace after owner device fences) ∨
      (after = bridge ∧ trace.Idle ∧ (fence = 0 ∨ bridge.Lacks .device handle)) := by
  unfold destroy at h
  split at h
  case isTrue hz =>
    obtain ⟨rfl, -, rfl⟩ := Action.runs_pure_iff.1 h
    exact .inr ⟨rfl, Trace.idle_nil, .inl hz⟩
  case isFalse hz =>
  rw [Action.runs_bind_iff] at h
  obtain ⟨resolving, last, resolved, between, rfl, hr, h⟩ := h
  obtain ⟨rfl, ⟨owner, device, hh, hb, rfl, rfl⟩ | ⟨hno, rfl, hi⟩⟩ := hs.runs_resolve hr rfl
  · have hsd : device.Sound bridge owner := hs owner _ hb
    have hself := Bridge.put_self hb
    rw [List.nil_append] at *
    simp only [Action.runs_bind_iff, Action.runs_lift_iff] at h
    obtain ⟨_, last, _, _, rfl, ⟨hd, rfl⟩, h⟩ := h
    obtain rfl := Program.runs_native_iff.1 hd
    obtain ⟨hfirst, hlast⟩ := Trace.fresh_append_iff.1 hf
    have hdestruction : bridge.Keeps owner [destruction device fence explicit] [destruction device fence explicit] bridge :=
      hs.keeps_still ho hfirst rfl (.native rfl 0) owner
    have ho := hdestruction.effect.accounts.occupies ho hfirst
    rw [← hself] at hs ho
    split at h
    case isTrue hc =>
      simp only [Action.runs_bind_iff, Action.runs_lift_iff, Action.runs_modify_iff] at h
      obtain ⟨releasing, _, fences, _, rfl, ⟨hrel, rfl⟩, rfl, rfl⟩ := h
      rw [List.append_nil] at *
      have hk : device.fences.grant? fence ≠ none := Registry.contains_iff_grant?.1 hc
      have hR := Registry.release_releases hsd.fences hk hrel
      have hkeeps := Device.fences_keeps hs ho hlast hR.sound hR.effect
      rw [hself] at hkeeps
      obtain ⟨rest, hrest⟩ := Device.exists_owned_put bridge owner device
      rw [hrest, Device.childrenOwned, Multiset.add_comm device.pools.owned, Multiset.add_assoc, Multiset.add_assoc] at ho
      refine .inl ⟨owner, device, fences, hz, ⟨hh, hb, ⟨_, rfl⟩, hdestruction.trans hkeeps, rfl, fun other => ?_,
        hR.others, ?_, ?_⟩⟩
      · have := hR.references other
        omega
      · intro other grant hne hg
        rw [← hR.others other hne] at hg
        exact Trace.spares_native_append (hR.spares ho hlast (Multiset.mem_add.2 (.inl (Registry.mem_owned_of_grant? hg))))
      · intro grant hg
        exact Trace.spares_native_append (hR.spares ho hlast (Multiset.mem_add.2 (.inr (Multiset.mem_add.2 (.inl hg)))))
    case isFalse hc =>
      obtain ⟨rfl, -, rfl⟩ := Action.runs_pure_iff.1 h
      rw [List.append_nil] at *
      -- Nothing is known of a fence without explicit callbacks, and nothing changes.
      have hnone : device.fences.references fence = 0 :=
        Registry.references_of_none (Registry.contains_eq_false_iff.1 (Bool.eq_false_iff.2 hc))
      refine .inl ⟨owner, device, device.fences, hz, ⟨hh, hb, ⟨_, rfl⟩, hdestruction, hself.symm, fun other => ?_,
        fun _ _ => rfl, ?_, ?_⟩⟩
      · by_cases heq : fence = other
        · subst heq
          rw [hnone]
          omega
        · rw [if_neg heq, Nat.sub_zero]
      · exact fun _ _ _ _ => Trace.spares_native_append fun _ hm => absurd hm List.not_mem_nil
      · exact fun _ _ => Trace.spares_native_append fun _ hm => absurd hm List.not_mem_nil
  · obtain ⟨rfl, -, rfl⟩ := Action.runs_pure_iff.1 h
    exact .inr ⟨rfl, Trace.idle_append_iff.2 ⟨hi, Trace.idle_nil⟩, .inr hno⟩

end VulkanBridge.Fence
