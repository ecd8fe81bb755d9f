import VulkanBridge.Proofs.Aside
import VulkanBridge.Proofs.Scratch
import VulkanBridge.Proofs.Storage
import VulkanBridge.Proofs.Tags
import VulkanBridge.CommandBuffer.Allocation
/-!
# Command buffers that come and go

Command buffers are made and given up one after another, and the record of their device is carried along until the
end. `Device.Regroups` is what each step, and hence each loop, does to that record: every pool keeps its allocator
and its entry, and the references that it has beyond its command buffers. The state in the midst of a loop is the one
in which the device's record has already been replaced.
-/

namespace VulkanBridge

namespace Device

variable {bridge after : Bridge} {owner : Address} {device changed last : Device} {trace later : Trace}
  {pool : NativeHandle} {place : Address}

/-! ## Counting command buffers -/

theorem held_of_insert (changed : Device) (h : (pool, place) ∉ device.commandBuffers)
    (hc : changed.commandBuffers = device.commandBuffers.insert (pool, place)) (other : NativeHandle) :
    changed.held other = device.held other + if pool = other then 1 else 0 := by
  rw [held, held, hc, elements_insert h, Multiset.countP_cons]

theorem held_of_erase (changed : Device) (h : (pool, place) ∈ device.commandBuffers)
    (hc : changed.commandBuffers = device.commandBuffers.erase (pool, place)) (other : NativeHandle) :
    device.held other = changed.held other + if pool = other then 1 else 0 := by
  rw [held, held, hc, elements_erase h, Multiset.countP_cons]

theorem held_pos (h : (pool, place) ∈ device.commandBuffers) : device.held pool ≠ 0 := by
  have : 0 < device.held pool := Multiset.countP_pos.2 ⟨(pool, place), mem_elements.2 h, rfl⟩
  omega

/-- Only the allocators of pools with command buffers count. -/
theorem wrappersOwned_congr {pools pools' : Registry} {commandBuffers : LiveCommandBuffers}
    (h : ∀ pool place, (pool, place) ∈ commandBuffers → pools'.get? pool = pools.get? pool) :
    wrappersOwned pools' commandBuffers = wrappersOwned pools commandBuffers := by
  rw [wrappersOwned, wrappersOwned, elements, Multiset.filterMap_coe, Multiset.filterMap_coe]
  refine congrArg _ (List.filterMap_congr fun entry he => ?_)
  rw [h entry.1 entry.2 (Std.ExtTreeSet.mem_toList.1 he)]

theorem wrappersOwned_insert {pools : Registry} {commandBuffers : LiveCommandBuffers} {allocator : Allocator}
    (h : (pool, place) ∉ commandBuffers) (ha : pools.get? pool = some allocator) :
    wrappersOwned pools (commandBuffers.insert (pool, place)) =
      allocator.granted place .commandBuffer + wrappersOwned pools commandBuffers := by
  rw [wrappersOwned, elements_insert h, Multiset.filterMap_cons, ha]
  rfl

theorem wrappersOwned_erase {pools : Registry} {commandBuffers : LiveCommandBuffers} {allocator : Allocator}
    (h : (pool, place) ∈ commandBuffers) (ha : pools.get? pool = some allocator) :
    wrappersOwned pools commandBuffers =
      allocator.granted place .commandBuffer + wrappersOwned pools (commandBuffers.erase (pool, place)) := by
  rw [wrappersOwned, elements_erase h, Multiset.filterMap_cons, ha]
  rfl

variable [Reckoning]

/-- A pool with command buffers has an entry, with references beyond them. -/
theorem Sound.entry_of_held (h : device.Sound bridge owner) (hm : (pool, place) ∈ device.commandBuffers) :
    ∃ entry, device.pools.entries[pool]? = some entry ∧ device.held pool < entry.references.toNat := by
  have hr := h.counted pool (held_pos hm)
  cases he : device.pools.entries[pool]? with
  | none =>
    rw [Registry.references_of_none he] at hr
    omega
  | some entry =>
    rw [Registry.references_of_some he] at hr
    exact ⟨entry, rfl, hr⟩

/-! ## The records of a device with other command buffers -/

/-- Command buffers came or went, and nothing else: each pool keeps its entry and the references it has beyond its
command buffers, and memory was handled for the records of command buffers only. -/
structure Regroups (device : Device) (trace : Trace) (changed : Device) : Prop where
  rest : changed = { device with pools := changed.pools, commandBuffers := changed.commandBuffers }
  entries : ∀ pool, changed.pools.grant? pool = device.pools.grant? pool
  owned : changed.pools.owned = device.pools.owned
  surplus : ∀ pool,
    changed.pools.references pool + device.held pool = device.pools.references pool + changed.held pool
  effect : trace.Effect (wrappersOwned device.pools device.commandBuffers) []
    (wrappersOwned changed.pools changed.commandBuffers)

namespace Regroups

theorem allocators (h : device.Regroups trace changed) (pool : NativeHandle) :
    changed.pools.get? pool = device.pools.get? pool := by
  rw [Registry.get?_eq, Registry.get?_eq, h.entries]

theorem of_idle (device : Device) (h : trace.Idle) : device.Regroups trace device :=
  ⟨rfl, fun _ => rfl, rfl, fun _ => rfl, h.effect _⟩

theorem refl (device : Device) : device.Regroups [] device := of_idle device Trace.idle_nil

theorem trans (hf : device.Regroups trace changed) (hl : changed.Regroups later last) :
    device.Regroups (trace ++ later) last where
  rest := by
    rw [hl.rest, hf.rest]
  entries pool := (hl.entries pool).trans (hf.entries pool)
  owned := hl.owned.trans hf.owned
  surplus pool := by
    have := hf.surplus pool
    have := hl.surplus pool
    omega
  effect := hf.effect.append hl.effect

theorem same (h : device.Regroups trace changed) : device.SameDevice changed := by
  have := h.rest
  constructor <;> rw [this]

theorem fences (h : device.Regroups trace changed) : changed.fences = device.fences := by rw [h.rest]

/-- What is done for command buffers is done for the children of the device. -/
theorem effect_children (h : device.Regroups trace changed) :
    trace.Effect device.childrenOwned [] changed.childrenOwned := by
  rw [childrenOwned, childrenOwned, h.owned, h.fences, Multiset.add_comm, Multiset.add_comm (_ + _)]
  exact h.effect.frame _

/-- No entry of a registry is given back. -/
theorem spares {places : List Address} (h : device.Regroups trace changed)
    (ho : (bridge.put owner (.device device)).owned.Occupies places) (hf : trace.Fresh places) {grant : Grant}
    (hg : grant ∈ device.pools.owned + device.fences.owned) :
    ∀ exchange ∈ trace, exchange.returned? ≠ some grant.address := by
  obtain ⟨rest, hrest⟩ := exists_owned_put bridge owner device
  rw [hrest, childrenOwned, Multiset.add_comm (device.pools.owned + device.fences.owned), Multiset.add_assoc] at ho
  exact h.effect.accounts.spares ho hf (Multiset.mem_add.2 (.inl hg))

end Regroups

end Device

namespace CommandBuffer

variable {bridge after : Bridge} {owner place : Address} {device : Device} {pools : Registry} {trace : Trace}
  {pool : NativeHandle}

theorem sound_commandBuffer : Layout.commandBuffer.Sound := by decide

/-- The device without a command buffer. -/
def without (device : Device) (pools : Registry) (entry : NativeHandle × Address) : Device :=
  { device with pools, commandBuffers := device.commandBuffers.erase entry }

theorem elements_eraseAll {entries : List (NativeHandle × Address)} {commandBuffers : LiveCommandBuffers}
    (hn : entries.Nodup) (hm : ∀ entry ∈ entries, entry ∈ commandBuffers) :
    elements commandBuffers = entries + elements (entries.foldl (·.erase ·) commandBuffers) := by
  induction entries generalizing commandBuffers with
  | nil => simp
  | cons entry rest ih =>
    obtain ⟨hout, hn⟩ := List.nodup_cons.1 hn
    rw [List.foldl_cons, elements_erase (hm entry (List.mem_cons_self ..)), ih hn, ← Multiset.cons_coe, Multiset.cons_add]
    intro other ho
    refine mem_erase_iff.2 ⟨?_, hm other (List.mem_cons_of_mem _ ho)⟩
    rintro rfl
    exact hout ho

theorem runs_unwrapAll {addresses : List Address} {changed : Device}
    (h : (unwrapAll device pool addresses).Runs bridge trace changed after) :
    ∃ pools, (freeAll device.pools ((addresses.map (pool, ·)).map (·.2))).Runs bridge trace pools after ∧
      changed = withoutAll device pools (addresses.map (pool, ·)) := by
  induction addresses generalizing bridge device trace with
  | nil =>
    obtain ⟨rfl, rfl, rfl⟩ := Action.runs_pure_iff.1 h
    exact ⟨device.pools, Action.runs_pure_iff.2 ⟨rfl, rfl, rfl⟩, rfl⟩
  | cons address rest ih =>
    rw [unwrapAll, Action.runs_bind_iff] at h
    obtain ⟨first, last, pools, between, rfl, hfree, h⟩ := h
    obtain ⟨pools', hrest, rfl⟩ := ih h
    exact ⟨pools', Action.runs_bind_iff.2 ⟨first, last, pools, between, rfl, hfree, hrest⟩, rfl⟩

theorem runs_drain {meant : NativeHandle × Address → Bool} {changed : Device}
    (h : (drain meant device).Runs bridge trace changed after) :
    ∃ pools, (freeAll device.pools ((device.commandBuffers.toList.filter meant).map (·.2))).Runs bridge trace pools after ∧
      changed = withoutAll device pools (device.commandBuffers.toList.filter meant) := by
  rw [drain_eq, Action.runs_bind_iff] at h
  obtain ⟨first, last, pools, between, rfl, hfree, h⟩ := h
  obtain ⟨rfl, rfl, rfl⟩ := Action.runs_pure_iff.1 h
  exact ⟨pools, (List.append_nil first).symm ▸ hfree, rfl⟩

/-! ## What other records see of it -/

/-- To give one record back changes no other. -/
theorem loses_free {pools' : Registry} (h : (free pools place).Runs bridge trace pools' after) :
    bridge.Loses after [place] := by
  unfold free at h
  simp only [Action.runs_bind_iff, Action.runs_get_iff] at h
  obtain ⟨_, _, _, _, rfl, ⟨rfl, rfl, rfl⟩, h⟩ := h
  split at h
  · obtain ⟨rfl, -, rfl⟩ := Action.runs_pure_iff.1 h
    exact .refl _ _
  · split at h
    · simp only [Action.runs_bind_iff, Action.runs_lift_iff, Action.runs_modify_iff] at h
      obtain ⟨_, _, _, _, rfl, ⟨-, rfl⟩, _, _, _, _, rfl, ⟨rfl, rfl⟩, -, rfl⟩ := h
      exact .remove _ place
    · simp only [Action.runs_bind_iff, Action.runs_lift_iff] at h
      obtain ⟨_, _, _, _, rfl, ⟨-, rfl⟩, -, rfl⟩ := h
      exact .refl bridge _

theorem loses_freeAll {pools' : Registry} {addresses : List Address}
    (h : (freeAll pools addresses).Runs bridge trace pools' after) : bridge.Loses after addresses := by
  induction addresses generalizing bridge pools trace with
  | nil =>
    obtain ⟨rfl, -, rfl⟩ := Action.runs_pure_iff.1 h
    exact .refl bridge _
  | cons address rest ih =>
    rw [freeAll, Action.runs_bind_iff] at h
    obtain ⟨first, last, pools₁, between, rfl, hf, hl⟩ := h
    exact (loses_free hf).trans (ih hl)

theorem loses_unwrapAll {addresses : List Address} {changed : Device}
    (h : (unwrapAll device pool addresses).Runs bridge trace changed after) : bridge.Loses after addresses := by
  obtain ⟨pools, hfree, -⟩ := runs_unwrapAll h
  simpa [Function.comp_def] using loses_freeAll hfree

/-- To put the native handles back is to give the records up. -/
theorem unwraps_of_restoreAll {addresses : List Address} {changed : Device} {restored : List NativeHandle}
    (h : (restoreAll device pool addresses).Runs bridge trace (changed, restored) after) :
    (unwrapAll device pool addresses).Runs bridge trace changed after := by
  induction addresses generalizing bridge device trace restored with
  | nil =>
    obtain ⟨rfl, he, rfl⟩ := Action.runs_pure_iff.1 h
    obtain ⟨rfl, -⟩ := Prod.mk.inj he
    exact Action.runs_pure_iff.2 ⟨rfl, rfl, rfl⟩
  | cons address rest ih =>
    simp only [restoreAll, Action.runs_bind_iff, Action.runs_get_iff] at h
    obtain ⟨_, _, _, _, rfl, ⟨rfl, rfl, rfl⟩, first, _, pools, between, rfl, hfree, last, _, ⟨last', natives⟩, _, rfl, hrest,
      hpure⟩ := h
    obtain ⟨rfl, he, rfl⟩ := Action.runs_pure_iff.1 hpure
    obtain ⟨rfl, -⟩ := Prod.mk.inj he
    rw [List.append_nil, List.nil_append]
    exact Action.runs_bind_iff.2 ⟨first, last, pools, between, rfl, hfree, ih hrest⟩

/-- At each of these places there is the record of a native command buffer, in order. -/
def Wraps (bridge : Bridge) (owner : Address) (pool : NativeHandle) : List Address → List NativeHandle → Prop :=
  List.Forall₂ fun (address : Address) native => bridge.blocks[address]? = some (.commandBuffer (new owner pool native))

theorem Wraps.kept {addresses : List Address} {natives : List NativeHandle} (h : Wraps bridge owner pool addresses natives)
    (hk : ∀ address ∈ addresses, after.blocks[address]? = bridge.blocks[address]?) :
    Wraps after owner pool addresses natives := by
  induction h with
  | nil => exact .nil
  | cons hfound _ ih =>
    rw [List.forall_mem_cons] at hk
    exact .cons (hk.1.trans hfound) (ih hk.2)

/-- Records that were made so far: distinct ones, of live command buffers, each for its native one. -/
structure Wrapped (bridge : Bridge) (owner : Address) (device : Device) (pool : NativeHandle) (made : List Address)
    (natives : List NativeHandle) : Prop where
  nodup : made.Nodup
  live : ∀ address ∈ made, (pool, address) ∈ device.commandBuffers
  wraps : Wraps bridge owner pool made natives

theorem Wrapped.none (bridge : Bridge) (owner : Address) (device : Device) (pool : NativeHandle) :
    Wrapped bridge owner device pool [] [] :=
  ⟨List.nodup_nil, nofun, .nil⟩

/-- One more record is made, at a place of its own. -/
theorem Wrapped.append {made : List Address} {natives : List NativeHandle} {address : Address} {native : NativeHandle}
    {changed : Device} (h : Wrapped bridge owner device pool made natives) (hout : (pool, address) ∉ device.commandBuffers)
    (hlive : ∀ entry, entry ∈ device.commandBuffers ∨ entry = (pool, address) → entry ∈ changed.commandBuffers)
    (hfound : after.blocks[address]? = some (.commandBuffer (new owner pool native)))
    (hsame : ∀ other : Address, other ≠ address → after.blocks[other]? = bridge.blocks[other]?) :
    Wrapped after owner changed pool (made ++ [address]) (natives ++ [native]) := by
  have hne : ∀ other ∈ made, other ≠ address := by
    rintro other hm rfl
    exact hout (h.live other hm)
  refine ⟨List.nodup_append.2 ⟨h.nodup, List.nodup_singleton _, fun other hm last hlast => ?_⟩, fun other hm => ?_, ?_⟩
  · rw [List.mem_singleton.1 hlast]
    exact hne other hm
  · refine hlive _ ((List.mem_append.1 hm).imp (h.live other) fun hm => ?_)
    rw [List.mem_singleton.1 hm]
  · exact List.rel_append (Wraps.kept h.wraps fun other hm => hsame other (hne other hm)) (.cons hfound .nil)

/-- The native handles that are put back are those that the records were made for. -/
theorem restores_of_wraps {addresses : List Address} {changed : Device} {natives restored : List NativeHandle}
    (hn : addresses.Nodup) (hw : Wraps bridge owner pool addresses natives)
    (h : (restoreAll device pool addresses).Runs bridge trace (changed, restored) after) : restored = natives := by
  induction addresses generalizing bridge device trace natives restored with
  | nil =>
    obtain rfl := List.forall₂_nil_left_iff.1 hw
    obtain ⟨-, he, -⟩ := Action.runs_pure_iff.1 h
    exact (Prod.mk.inj he).2.symm
  | cons address rest ih =>
    obtain ⟨native, others, hfound, hothers, rfl⟩ := List.forall₂_cons_left_iff.1 hw
    obtain ⟨hout, hn⟩ := List.nodup_cons.1 hn
    simp only [restoreAll, Action.runs_bind_iff, Action.runs_get_iff] at h
    obtain ⟨_, _, _, _, rfl, ⟨rfl, rfl, rfl⟩, _, _, pools, between, rfl, hfree, _, _, ⟨_, found⟩, _, rfl, hrest, hpure⟩ := h
    obtain ⟨rfl, he, rfl⟩ := Action.runs_pure_iff.1 hpure
    obtain ⟨rfl, rfl⟩ := Prod.mk.inj he
    -- The record that went first is none of the others.
    have hothers : Wraps between owner pool rest others := by
      refine Wraps.kept hothers fun other hm => (loses_free hfree).kept ?_
      rw [List.mem_singleton]
      rintro rfl
      exact hout hm
    rw [ih hn hothers hrest, Bridge.record?_commandBuffer_iff.2 ⟨rfl, hfound⟩]
    rfl

/-- A record is made at some place, or everything stays. -/
theorem runs_wrap {allocator : Allocator} {native : NativeHandle} {changed : Device} {outcome : Except CallError Address}
    (h : (wrap owner device pool allocator native).Runs bridge trace (changed, outcome) after) :
    trace.commandBuffers = [] ∧
      ((∃ address, outcome = .ok address ∧ after = bridge.put address (.commandBuffer (new owner pool native))) ∨
        ∃ error, outcome = .error error ∧ after = bridge) := by
  unfold wrap at h
  simp only [Action.runs_bind_iff, Action.runs_lift_iff] at h
  obtain ⟨first, last, registered, _, rfl, ⟨hreg, rfl⟩, h⟩ := h
  have hfirst := Registry.aside_register _ _ _ _ _ _ hreg
  cases registered with
  | error error =>
    obtain ⟨rfl, he, rfl⟩ := Action.runs_pure_iff.1 h
    obtain ⟨-, rfl⟩ := Prod.mk.inj he
    exact ⟨by simp [hfirst], .inr ⟨error, rfl, rfl⟩⟩
  | ok pools =>
    simp only [Action.runs_bind_iff, Action.runs_lift_iff] at h
    obtain ⟨second, last, allocated, _, rfl, ⟨hallocate, rfl⟩, h⟩ := h
    have hsecond := Allocator.aside_allocateObject _ _ _ _ _ hallocate
    cases allocated with
    | ok address =>
      simp only [Action.runs_bind_iff, Action.runs_modify_iff, Action.runs_pure_iff, Prod.mk.injEq] at h
      obtain ⟨_, _, _, _, rfl, ⟨rfl, rfl⟩, rfl, ⟨-, rfl⟩, rfl⟩ := h
      exact ⟨by simp [hfirst, hsecond], .inl ⟨address, rfl, rfl⟩⟩
    | error error =>
      simp only [Action.runs_bind_iff, Action.runs_lift_iff, Action.runs_pure_iff, Prod.mk.injEq] at h
      obtain ⟨releasing, _, _, _, rfl, ⟨hrel, rfl⟩, rfl, ⟨-, rfl⟩, rfl⟩ := h
      have hrel := Registry.aside_release _ _ _ _ hrel
      exact ⟨by simp [hfirst, hsecond, hrel], .inr ⟨error, rfl, rfl⟩⟩

/-- Nothing is asked about native command buffers while records are made for them. -/
theorem wrapAll_commandBuffers {allocator : Allocator} {natives : List NativeHandle} {made : List Address}
    {outcome : Device × Except (CallError × List NativeHandle) (List Address)}
    (h : (wrapAll owner pool allocator device made natives).Runs bridge trace outcome after) :
    trace.commandBuffers = [] := by
  induction natives generalizing bridge device made trace with
  | nil =>
    obtain ⟨rfl, -, -⟩ := Action.runs_pure_iff.1 h
    rfl
  | cons native rest ih =>
    rw [wrapAll, Action.runs_bind_iff] at h
    obtain ⟨first, last, ⟨changed, outcome'⟩, between, rfl, hw, h⟩ := h
    rw [Trace.commandBuffers_append, (runs_wrap hw).1, List.nil_append]
    cases outcome' with
    | ok address => exact ih h
    | error error =>
      dsimp only at h
      rw [Action.runs_bind_iff] at h
      obtain ⟨undoing, _, ⟨unwrapped, restored⟩, middle, rfl, hu, hpure⟩ := h
      obtain ⟨rfl, -, -⟩ := Action.runs_pure_iff.1 hpure
      obtain ⟨_, hfree, -⟩ := runs_unwrapAll (unwraps_of_restoreAll hu)
      rw [Trace.commandBuffers_append, (aside_freeAll _ _ _ _ _ _ hfree).1]
      rfl

/-! ## Entries of a list -/

/-- The record of the command buffer that an entry stands for. -/
def at? (bridge : Bridge) (handle : Option Handle) : Option CommandBuffer := handle.bind (bridge.record? .commandBuffer)

/-- What the native driver is told of an entry: null if it stands for no command buffer. -/
def nativeOrNull (bridge : Bridge) (handle : Option Handle) : NativeHandle := (at? bridge handle).elim 0 (·.native)

theorem aside_resolveEntry (handle : Option Handle) : (resolveEntry handle).Aside := by
  unfold resolveEntry
  split
  · exact Action.aside_pure _
  · refine .bind (aside_resolve _ _) fun resolved => ?_
    cases resolved <;> exact Action.aside_pure _

theorem aside_resolveEntries (batch : List (Option Handle)) : (batch.mapM resolveEntry).Aside := by
  induction batch with
  | nil => exact Action.aside_pure _
  | cons handle rest ih =>
    rw [List.mapM_cons]
    exact .bind (aside_resolveEntry handle) fun _ => .bind ih fun _ => Action.aside_pure _

theorem runs_resolveEntry {handle : Option Handle} {entry : Option (Address × NativeHandle)}
    (hv : ∀ accepted ∈ handle, ∃ record, bridge.record? .commandBuffer accepted = some record ∧
      record.header.tag = ObjectKind.commandBuffer.tag)
    (h : (resolveEntry handle).Runs bridge trace entry after) :
    after = bridge ∧ trace.Idle ∧ entry.map (·.1) = handle.map (·.block) ∧
      entry.elim 0 (·.2) = nativeOrNull bridge handle := by
  unfold resolveEntry at h
  cases handle with
  | none =>
    obtain ⟨rfl, rfl, rfl⟩ := Action.runs_pure_iff.1 h
    exact ⟨rfl, Trace.idle_nil, rfl, rfl⟩
  | some handle =>
    obtain ⟨record, hrec, htag⟩ := hv handle rfl
    dsimp only at h
    rw [Action.runs_bind_iff] at h
    obtain ⟨resolving, last, resolved, between, rfl, hr, h⟩ := h
    obtain ⟨rfl, hi, ⟨accepted, record', hh, rfl, rfl, -, hrec'⟩ | ⟨rfl, hno⟩⟩ := runs_resolve hr
    · obtain rfl := Option.some.inj hh
      obtain ⟨rfl, rfl, rfl⟩ := Action.runs_pure_iff.1 h
      refine ⟨rfl, Trace.idle_nil, rfl, ?_⟩
      rw [nativeOrNull, at?, Option.bind_some, hrec']
      rfl
    · obtain ⟨hslot, hb⟩ := Bridge.record?_commandBuffer_iff.1 hrec
      have := hno handle rfl (by simp [Bridge.header?, hb, hslot, Block.header?, htag])
      rw [hrec] at this
      cases this

theorem runs_resolveEntries {batch : List (Option Handle)} {entries : List (Option (Address × NativeHandle))}
    (hv : ∀ accepted, some accepted ∈ batch → ∃ record, bridge.record? .commandBuffer accepted = some record ∧
      record.header.tag = ObjectKind.commandBuffer.tag)
    (h : (batch.mapM resolveEntry).Runs bridge trace entries after) :
    after = bridge ∧ trace.Idle ∧
      entries.filterMap (·.map (·.1)) = (batch.filterMap id).map (·.block) ∧
        entries.map (·.elim 0 (·.2)) = batch.map (nativeOrNull bridge) := by
  induction batch generalizing trace entries with
  | nil =>
    rw [List.mapM_nil] at h
    obtain ⟨rfl, rfl, rfl⟩ := Action.runs_pure_iff.1 h
    exact ⟨rfl, Trace.idle_nil, rfl, rfl⟩
  | cons handle rest ih =>
    simp only [List.mapM_cons, Action.runs_bind_iff, Action.runs_pure_iff] at h
    obtain ⟨first, _, entry, between, rfl, hf, last, _, others, _, rfl, hl, rfl, rfl, rfl⟩ := h
    obtain ⟨rfl, hi, he, hn⟩ := runs_resolveEntry (fun accepted ha => hv accepted (by simp [Option.mem_def.1 ha])) hf
    obtain ⟨rfl, hi', he', hn'⟩ := ih (fun accepted ha => hv accepted (List.mem_cons_of_mem _ ha)) hl
    refine ⟨rfl, by simpa using ⟨hi, hi'⟩, ?_, by rw [List.map_cons, List.map_cons, hn, hn']⟩
    rw [List.filterMap_cons, List.filterMap_cons, he, he']
    cases handle <;> rfl

variable [Reckoning]

/-- A command buffer of a device gives its record back to the allocator of its pool, and one of the references. -/
theorem runs_free (hs : (bridge.put owner (.device device)).Sound) (hm : (pool, place) ∈ device.commandBuffers)
    (h : (free device.pools place).Runs bridge trace pools after) :
    ∃ entry, device.pools.entries[pool]? = some entry ∧ entry.references ≠ 1 ∧
      pools = device.pools.yield pool entry ∧ after = bridge.remove place ∧
      trace = entry.allocator.returns .commandBuffer place ∧
      trace.Effect (entry.allocator.granted place .commandBuffer) [] 0 := by
  have hd : device.Sound (bridge.put owner (.device device)) owner := hs owner _ Bridge.blocks_put_self
  obtain ⟨entry, he, hr⟩ := hd.entry_of_held hm
  have hone : entry.references ≠ 1 := by
    rintro heq
    have := Device.held_pos hm
    rw [heq, UInt32.toNat_one] at hr
    omega
  obtain ⟨-, found, hfound, -, hpool, -⟩ := hd.commandBuffer hm
  have hrec : bridge.record? .commandBuffer place.toHandle = some found :=
    Bridge.record?_commandBuffer_iff.2 ⟨rfl, hfound⟩
  have hget : device.pools.get? found.pool = some entry.allocator := by
    rw [hpool, Registry.get?, he]
    rfl
  refine ⟨entry, he, hone, ?_⟩
  unfold free at h
  simp only [Action.runs_bind_iff, Action.runs_get_iff] at h
  obtain ⟨_, _, _, _, rfl, ⟨rfl, rfl, rfl⟩, h⟩ := h
  simp only [hrec, hget, Action.runs_bind_iff, Action.runs_lift_iff, Action.runs_modify_iff] at h
  obtain ⟨freeing, _, _, _, rfl, ⟨hf, rfl⟩, _, releasing, _, _, rfl, ⟨rfl, rfl⟩, hrel, rfl⟩ := h
  have hreturns := Allocator.returns_of_freeObject sound_commandBuffer hf
  have heff := Allocator.runs_freeObject (hd.pools pool entry he).2 sound_commandBuffer hf
  rw [hpool] at hrel
  obtain ⟨hnone, -, -⟩ | ⟨entry', he', ⟨hone', -, -⟩ | ⟨-, rfl, rfl⟩⟩ := Registry.runs_release hrel
  · rw [he] at hnone
    cases hnone
  · obtain rfl := Option.some.inj (he.symm.trans he')
    exact (hone hone').elim
  · obtain rfl := Option.some.inj (he.symm.trans he')
    exact ⟨rfl, rfl, by simpa using hreturns, heff.before_idle Trace.idle_nil⟩

theorem free_keeps {places : List Address} (hs : (bridge.put owner (.device device)).Sound)
    (ho : (bridge.put owner (.device device)).owned.Occupies places) (hf : trace.Fresh places) (hm : (pool, place) ∈ device.commandBuffers)
    (h : (free device.pools place).Runs bridge trace pools after) :
    (bridge.put owner (.device device)).Keeps owner trace []
        (after.put owner (.device (without device pools (pool, place)))) ∧
      device.Regroups trace (without device pools (pool, place)) := by
  obtain ⟨entry, he, hone, rfl, rfl, -, heff⟩ := runs_free hs hm h
  have hsd : device.Sound (bridge.put owner (.device device)) owner := hs owner _ Bridge.blocks_put_self
  have hheld := Device.held_of_erase (without device (device.pools.yield pool entry) (pool, place)) hm rfl
  have hreferences := Registry.references_yield he (hsd.pools pool entry he).1
  have hget (other : NativeHandle) : (device.pools.yield pool entry).get? other = device.pools.get? other := by
    rw [Registry.get?_eq, Registry.get?_eq, Registry.grant?_yield he]
  have hregroups : device.Regroups trace (without device (device.pools.yield pool entry) (pool, place)) := by
    refine ⟨rfl, Registry.grant?_yield he, Registry.owned_yield he, fun other => ?_, ?_⟩
    · have := hheld other
      have := hreferences other
      simp only [without] at *
      omega
    · have hp : device.pools.get? pool = some entry.allocator := by
        rw [Registry.get?, he]
        rfl
      have := heff.frame (Device.wrappersOwned device.pools (device.commandBuffers.erase (pool, place)))
      rw [Multiset.zero_add, ← Device.wrappersOwned_erase hm hp] at this
      rw [without, Device.wrappersOwned_congr fun other _ _ => hget other]
      exact this
  refine ⟨hregroups.same.keeps hs ho hf ?_ hregroups.effect_children, hregroups⟩
  refine hregroups.same.changes hs (fun other _ hold _ => ?_) (fun other block hm' => ?_) (fun other block hold hnew => ?_)
    (fun other block hm' => ?_) (hsd.pools.yield he hone) hsd.fences (fun other hheld' => ?_)
  · refine Bridge.blocks_remove ?_
    rintro rfl
    exact hold pool hm
  · exact .inl (mem_erase_iff.1 hm').2
  · have : (other, block) = (pool, place) := by
      by_contra hn
      exact hnew (mem_erase_iff.2 ⟨hn, hold⟩)
    obtain ⟨-, rfl⟩ := Prod.mk.inj this
    exact Bridge.blocks_remove_self
  · obtain ⟨hother, hm'⟩ := mem_erase_iff.1 hm'
    obtain ⟨hne, found, hf, ht, hp, hdev⟩ := hsd.commandBuffer hm'
    refine ⟨hne, found, ?_, ht, hp, hdev⟩
    rw [Bridge.blocks_remove, hf]
    rintro rfl
    -- Two pools would claim the one record.
    obtain ⟨-, found', hf', -, hp', -⟩ := hsd.commandBuffer hm
    rw [hf] at hf'
    obtain rfl : found = found' := by injection hf' with hf'; injection hf'
    exact hother (by rw [← hp, ← hp'])
  · have h₁ := hheld other
    have h₂ := hreferences other
    have h₃ := hsd.counted other
    simp only [without] at *
    omega

/-! ## Giving up one after another -/

variable {places : List Address}

theorem freeAll_keeps {entries : List (NativeHandle × Address)} (hs : (bridge.put owner (.device device)).Sound)
    (ho : (bridge.put owner (.device device)).owned.Occupies places) (hf : trace.Fresh places)
    (hn : entries.Nodup) (hm : ∀ entry ∈ entries, entry ∈ device.commandBuffers)
    (h : (freeAll device.pools (entries.map (·.2))).Runs bridge trace pools after) :
    (bridge.put owner (.device device)).Keeps owner trace []
        (after.put owner (.device (withoutAll device pools entries))) ∧
      device.Regroups trace (withoutAll device pools entries) := by
  induction entries generalizing bridge device trace places with
  | nil =>
    obtain ⟨rfl, rfl, rfl⟩ := Action.runs_pure_iff.1 h
    exact ⟨hs.keeps_idle Trace.idle_nil owner, .refl device⟩
  | cons entry rest ih =>
    obtain ⟨pool, place⟩ := entry
    rw [List.map_cons, freeAll, Action.runs_bind_iff] at h
    obtain ⟨first, last, pools', between, rfl, hfree, h⟩ := h
    obtain ⟨hfirst, hlast⟩ := Trace.fresh_append_iff.1 hf
    obtain ⟨hout, hn⟩ := List.nodup_cons.1 hn
    obtain ⟨hk, hr⟩ := free_keeps hs ho hfirst (hm _ (List.mem_cons_self ..)) hfree
    have hrest (other) (ho : other ∈ rest) : other ∈ device.commandBuffers.erase (pool, place) := by
      refine mem_erase_iff.2 ⟨?_, hm other (List.mem_cons_of_mem _ ho)⟩
      rintro rfl
      exact hout ho
    obtain ⟨hk', hr'⟩ := ih hk.sound (hk.effect.accounts.occupies ho hfirst) hlast hn hrest h
    exact ⟨hk.trans hk', hr.trans hr'⟩

/-- Command buffers of one pool are given up, and no others. -/
theorem unwrapAll_keeps {addresses : List Address} {changed : Device} (hs : (bridge.put owner (.device device)).Sound)
    (ho : (bridge.put owner (.device device)).owned.Occupies places) (hf : trace.Fresh places)
    (hn : addresses.Nodup) (hm : ∀ address ∈ addresses, (pool, address) ∈ device.commandBuffers)
    (h : (unwrapAll device pool addresses).Runs bridge trace changed after) :
    (bridge.put owner (.device device)).Keeps owner trace [] (after.put owner (.device changed)) ∧
      device.Regroups trace changed ∧
      elements device.commandBuffers = (addresses.map (pool, ·) : Multiset _) + elements changed.commandBuffers := by
  obtain ⟨pools, hfree, rfl⟩ := runs_unwrapAll h
  have hn' : (addresses.map (pool, ·)).Nodup := hn.map fun _ _ he => (Prod.mk.inj he).2
  have hm' : ∀ entry ∈ addresses.map (pool, ·), entry ∈ device.commandBuffers := by
    intro entry he
    obtain ⟨address, ha, rfl⟩ := List.mem_map.1 he
    exact hm address ha
  obtain ⟨hk, hr⟩ := freeAll_keeps hs ho hf hn' hm' hfree
  exact ⟨hk, hr, elements_eraseAll hn' hm'⟩

omit [Reckoning] in
/-- The command buffers that are meant are distinct and live. -/
theorem meant_live (device : Device) (meant : NativeHandle × Address → Bool) :
    (device.commandBuffers.toList.filter meant).Nodup ∧
      ∀ entry ∈ device.commandBuffers.toList.filter meant, entry ∈ device.commandBuffers := by
  refine ⟨(Multiset.coe_nodup.1 (nodup_elements device.commandBuffers)).filter _, fun entry he => ?_⟩
  exact Std.ExtTreeSet.mem_toList.1 (List.mem_filter.1 he).1

/-- The command buffers that are meant are given up, and no others. -/
theorem drain_keeps {meant : NativeHandle × Address → Bool} {changed : Device}
    (hs : (bridge.put owner (.device device)).Sound)
    (ho : (bridge.put owner (.device device)).owned.Occupies places) (hf : trace.Fresh places)
    (h : (drain meant device).Runs bridge trace changed after) :
    (bridge.put owner (.device device)).Keeps owner trace [] (after.put owner (.device changed)) ∧
      device.Regroups trace changed ∧
      elements device.commandBuffers = (device.commandBuffers.toList.filter meant : Multiset _) + elements changed.commandBuffers := by
  obtain ⟨pools, hfree, rfl⟩ := runs_drain h
  obtain ⟨hn, hm⟩ := meant_live device meant
  obtain ⟨hk, hr⟩ := freeAll_keeps hs ho hf hn hm hfree
  exact ⟨hk, hr, elements_eraseAll hn hm⟩

/-! ## Making one after another -/

variable {allocator : Allocator} {native : NativeHandle} {changed : Device}

/-- The device with a new command buffer, for which its pool gets a reference. -/
def gaining (device : Device) (pool : NativeHandle) (entry : Registry.Entry) (place : Address) : Device :=
  { device with
    pools := device.pools.retain pool entry
    commandBuffers := device.commandBuffers.insert (pool, place) }

/-- The pool of a new command buffer counts it, and what is owned grows by its record. -/
theorem gaining_regroups {entry : Registry.Entry} (he : device.pools.entries[pool]? = some entry)
    (hl : device.pools.references pool + 1 < 2 ^ 32) (hout : (pool, place) ∉ device.commandBuffers)
    (heff : trace.Effect 0 [] (entry.allocator.granted place .commandBuffer)) :
    device.Regroups trace (gaining device pool entry place) := by
  have hget (other : NativeHandle) : (device.pools.retain pool entry).get? other = device.pools.get? other := by
    rw [Registry.get?_eq, Registry.get?_eq, Registry.grant?_retain he]
  refine ⟨rfl, Registry.grant?_retain he, Registry.owned_retain he, fun other => ?_, ?_⟩
  · have := Device.held_of_insert (gaining device pool entry place) hout rfl other
    have := Registry.references_retain he hl other
    simp only [gaining] at *
    omega
  · have hp : device.pools.get? pool = some entry.allocator := Registry.get?_eq_some_iff.2 ⟨entry, he, rfl⟩
    have := heff.frame (Device.wrappersOwned device.pools device.commandBuffers)
    rw [Multiset.zero_add, ← Device.wrappersOwned_insert hout hp] at this
    rw [gaining, Device.wrappersOwned_congr fun other _ _ => hget other]
    exact this

/-- Pools with command buffers still have a reference besides these once there is a new one. -/
theorem gaining_counted {entry : Registry.Entry} (hs : device.Sound bridge owner)
    (he : device.pools.entries[pool]? = some entry) (hl : device.pools.references pool + 1 < 2 ^ 32)
    (hout : (pool, place) ∉ device.commandBuffers) {other : NativeHandle}
    (hpos : (gaining device pool entry place).held other ≠ 0) :
    (gaining device pool entry place).held other < (gaining device pool entry place).pools.references other := by
  have h₁ := Device.held_of_insert (gaining device pool entry place) hout rfl other
  have h₂ := Registry.references_retain he hl other
  have h₃ := hs.counted other
  -- The pool itself has a reference beyond those of its command buffers.
  have h₄ : device.pools.references pool ≠ 0 := by
    rw [Registry.references_of_some he]
    exact fun hz => (hs.pools pool entry he).1 (UInt32.toNat_inj.1 hz)
  simp only [gaining] at *
  by_cases heq : pool = other
  · subst heq
    simp only [if_true] at *
    omega
  · simp only [if_neg heq] at *
    omega

/-- A block that was obtained for a record becomes the record of a new command buffer. -/
theorem gaining_keeps {entry : Registry.Entry} (hs : (bridge.put owner (.device device)).Sound)
    (ho : (bridge.put owner (.device device)).owned.Occupies places) (hf : trace.Fresh places)
    (he : device.pools.entries[pool]? = some entry) (hl : device.pools.references pool + 1 < 2 ^ 32)
    (heff : trace.Effect 0 [] (entry.allocator.granted place .commandBuffer)) :
    (bridge.put owner (.device device)).Keeps owner trace []
        ((bridge.put place (.commandBuffer (new owner pool native))).put owner (.device (gaining device pool entry place))) ∧
      device.Regroups trace (gaining device pool entry place) ∧ (pool, place) ∉ device.commandBuffers ∧
        (bridge.put owner (.device device)).blocks[place]? = none := by
  have hsd : device.Sound (bridge.put owner (.device device)) owner := hs owner _ Bridge.blocks_put_self
  have hfresh : (bridge.put owner (.device device)).blocks[place]? = none :=
    hs.fresh ho hf heff (Multiset.mem_singleton_self _)
  have hplace : place ≠ owner := by
    rintro rfl
    rw [Bridge.blocks_put_self] at hfresh
    cases hfresh
  have hout (other : NativeHandle) : (other, place) ∉ device.commandBuffers := by
    intro hm
    obtain ⟨found, hfound, -⟩ := hsd.commandBuffers other place hm
    rw [hfresh] at hfound
    cases hfound
  have hregroups := gaining_regroups he hl (hout pool) heff
  refine ⟨hregroups.same.keeps hs ho hf ?_ hregroups.effect_children, hregroups, hout pool, hfresh⟩
  refine hregroups.same.changes hs (fun other _ _ hnew => ?_) (fun other block hm => ?_) (fun other block hold hnew => ?_)
    (fun other block hm => ?_) (hsd.pools.retain he hl) hsd.fences fun other => gaining_counted hsd he hl (hout pool)
  · refine Bridge.blocks_put ?_
    rintro rfl
    exact hnew pool (mem_insert_iff.2 (.inl rfl))
  · obtain heq | hold := mem_insert_iff.1 hm
    · obtain ⟨-, rfl⟩ := Prod.mk.inj heq
      exact .inr hfresh
    · exact .inl hold
  · exact (hnew (mem_insert_iff.2 (.inr hold))).elim
  · obtain heq | hold := mem_insert_iff.1 hm
    · obtain ⟨rfl, rfl⟩ := Prod.mk.inj heq
      exact ⟨hplace, _, Bridge.blocks_put_self, rfl, rfl, rfl⟩
    · obtain ⟨hne, found, hfound, ht⟩ := hsd.commandBuffer hold
      refine ⟨hne, found, ?_, ht⟩
      rw [Bridge.blocks_put, hfound]
      rintro rfl
      exact hout other hold

/-- With an entry for the pool, a record takes one allocation, and nothing changes if that fails: the reference that was
taken first is given up again. -/
theorem runs_wrap_known {entry : Registry.Entry} {outcome : Except CallError Address}
    (he : device.pools.entries[pool]? = some entry) (hr : entry.references ≠ 0)
    (h : (wrap owner device pool allocator native).Runs bridge trace (changed, outcome) after) :
    (∃ address, outcome = .ok address ∧ changed = gaining device pool entry address ∧
        after = bridge.put address (.commandBuffer (new owner pool native)) ∧
        trace = allocator.asks .commandBuffer .object (some address) ∧
        trace.Effect 0 [] (allocator.granted address .commandBuffer)) ∨
      (outcome = .error .outOfHostMemory ∧ changed = device ∧ after = bridge ∧
        trace = allocator.asks .commandBuffer .object none ∧ trace.Idle) := by
  unfold wrap at h
  simp only [Action.runs_bind_iff, Action.runs_lift_iff] at h
  obtain ⟨_, _, _, _, rfl, ⟨hreg, rfl⟩, h⟩ := h
  obtain ⟨rfl, rfl⟩ := Registry.runs_register_known he hreg
  simp only [Action.runs_bind_iff, Action.runs_lift_iff] at h
  obtain ⟨first, last, _, _, rfl, ⟨hallocate, rfl⟩, h⟩ := h
  have hasks := Allocator.asks_of_allocateObject sound_commandBuffer hallocate
  obtain ⟨address, rfl, heff⟩ | ⟨rfl, hi⟩ := Allocator.runs_allocateObject hallocate
  · obtain ⟨_, ⟨rfl⟩, rfl⟩ := hasks.resolve_right nofun
    simp only [Action.runs_bind_iff, Action.runs_modify_iff, Action.runs_pure_iff, Prod.mk.injEq] at h
    obtain ⟨_, _, _, _, rfl, ⟨rfl, rfl⟩, rfl, ⟨rfl, rfl⟩, rfl⟩ := h
    exact .inl ⟨address, rfl, rfl, rfl, by simp, by simpa using heff⟩
  · obtain ⟨-, rfl⟩ := hasks.resolve_left nofun
    simp only [Action.runs_bind_iff, Action.runs_lift_iff, Action.runs_pure_iff, Prod.mk.injEq] at h
    obtain ⟨_, _, pools, _, rfl, ⟨hrel, rfl⟩, rfl, ⟨rfl, rfl⟩, rfl⟩ := h
    obtain ⟨rfl, rfl⟩ := Registry.runs_release_retained he hr hrel
    exact .inr ⟨rfl, rfl, rfl, by simp, by simpa using hi⟩

/-- A record is made for a native command buffer, or the device is left with what it had. -/
theorem wrap_keeps {outcome : Except CallError Address} (hs : (bridge.put owner (.device device)).Sound)
    (ho : (bridge.put owner (.device device)).owned.Occupies places) (hf : trace.Fresh places)
    (hp : device.pools.get? pool = some allocator) (hl : device.pools.references pool + 1 < 2 ^ 32)
    (h : (wrap owner device pool allocator native).Runs bridge trace (changed, outcome) after) :
    (bridge.put owner (.device device)).Keeps owner trace [] (after.put owner (.device changed)) ∧
      device.Regroups trace changed ∧
      ((∃ address, outcome = .ok address ∧ (pool, address) ∉ device.commandBuffers ∧
          changed.commandBuffers = device.commandBuffers.insert (pool, address) ∧
          (bridge.put owner (.device device)).blocks[address]? = none) ∨
        ∃ error, outcome = .error error ∧ changed.commandBuffers = device.commandBuffers) := by
  obtain ⟨entry, he, rfl⟩ := Registry.get?_eq_some_iff.1 hp
  have hsd : device.Sound (bridge.put owner (.device device)) owner := hs owner _ Bridge.blocks_put_self
  obtain ⟨address, rfl, rfl, rfl, -, heff⟩ | ⟨rfl, rfl, rfl, -, hi⟩ := runs_wrap_known he (hsd.pools pool entry he).1 h
  · obtain ⟨hk, hr, hout, hfresh⟩ := gaining_keeps hs ho hf he hl heff
    exact ⟨hk, hr, .inl ⟨address, rfl, hout, rfl, hfresh⟩⟩
  · exact ⟨hs.keeps_idle hi owner, .of_idle _ hi, .inr ⟨_, rfl, rfl⟩⟩

/-- Records are made for all native command buffers, or the device is left without those made before too, and the native
handles are back where they were. -/
theorem wrapAll_keeps {natives wrapped : List NativeHandle} {made : List Address}
    {outcome : Except (CallError × List NativeHandle) (List Address)}
    (hs : (bridge.put owner (.device device)).Sound)
    (ho : (bridge.put owner (.device device)).owned.Occupies places) (hf : trace.Fresh places)
    (hp : device.pools.get? pool = some allocator)
    (hl : device.pools.references pool + natives.length < 2 ^ 32)
    (hmade : Wrapped bridge owner device pool made wrapped)
    (h : (wrapAll owner pool allocator device made natives).Runs bridge trace (changed, outcome) after) :
    (bridge.put owner (.device device)).Keeps owner trace [] (after.put owner (.device changed)) ∧
      device.Regroups trace changed ∧
      ((∃ new, outcome = .ok (made ++ new) ∧ Wraps after owner pool new natives ∧
          (∀ (place : Address) block, bridge.blocks[place]? = some block → after.blocks[place]? = some block) ∧
          elements changed.commandBuffers = (new.map (pool, ·) : Multiset _) + elements device.commandBuffers) ∨
        ∃ error, outcome = .error (error, wrapped ++ natives) ∧
          (∀ place : Address, place ∉ made → ∀ block, bridge.blocks[place]? = some block → after.blocks[place]? = some block) ∧
          elements device.commandBuffers = (made.map (pool, ·) : Multiset _) + elements changed.commandBuffers) := by
  induction natives generalizing bridge device made wrapped trace places with
  | nil =>
    obtain ⟨rfl, he, rfl⟩ := Action.runs_pure_iff.1 h
    obtain ⟨rfl, rfl⟩ := Prod.mk.inj he
    exact ⟨hs.keeps_idle Trace.idle_nil owner, .refl device,
      .inl ⟨[], by rw [List.append_nil], .nil, fun _ _ h => h, by simp⟩⟩
  | cons native rest ih =>
    rw [wrapAll, Action.runs_bind_iff] at h
    obtain ⟨first, last, ⟨device', outcome'⟩, between, rfl, hw, h⟩ := h
    obtain ⟨hfirst, hlast⟩ := Trace.fresh_append_iff.1 hf
    rw [List.length_cons] at hl
    obtain ⟨-, hplaced⟩ := runs_wrap hw
    obtain ⟨hk, hr, ⟨address, rfl, hout, hc, hfresh⟩ | ⟨error, rfl, hc⟩⟩ := wrap_keeps hs ho hfirst hp (by omega) hw
    · obtain ⟨_, he, rfl⟩ := hplaced.resolve_right nofun
      cases he
      have hold : ∀ (place : Address) block, bridge.blocks[place]? = some block →
          (bridge.put address (.commandBuffer (new owner pool native))).blocks[place]? = some block := by
        intro place block hb
        rw [Bridge.blocks_put (Bridge.ne_of_vacant_put hfresh hb), hb]
      have hheld := Device.held_of_insert _ hout hc pool
      have hsurplus := hr.surplus pool
      rw [if_pos rfl] at hheld
      -- If memory runs out later, this record goes with those made before it.
      have hmade' : Wrapped (bridge.put address (.commandBuffer (new owner pool native))) owner device' pool
          (made ++ [address]) (wrapped ++ [native]) := by
        refine hmade.append hout (fun entry hm => ?_) Bridge.blocks_put_self fun other hne => Bridge.blocks_put hne
        rw [hc]
        exact mem_insert_iff.2 hm.symm
      obtain ⟨hk', hr', hends⟩ := ih hk.sound (hk.effect.accounts.occupies ho hfirst) hlast
        (by rw [hr.allocators, hp]) (by omega) hmade' h
      refine ⟨hk.trans hk', hr.trans hr', ?_⟩
      rw [hc, elements_insert hout] at hends
      obtain ⟨new, rfl, hwraps, hkept, hnew⟩ | ⟨error, rfl, hkept, hnew⟩ := hends
      · refine .inl ⟨address :: new, by rw [List.append_assoc]; rfl, .cons (hkept _ _ Bridge.blocks_put_self) hwraps,
          fun place block hb => hkept place block (hold place block hb), ?_⟩
        rw [hnew, List.map_cons, ← Multiset.cons_coe, Multiset.cons_add, Multiset.add_cons]
      · refine .inr ⟨error, by rw [List.append_assoc]; rfl, fun place hout block hb =>
          hkept place ?_ block (hold place block hb), ?_⟩
        · rw [List.mem_append, List.mem_singleton, not_or]
          exact ⟨hout, Bridge.ne_of_vacant_put hfresh hb⟩
        rw [List.map_append, ← Multiset.coe_add, List.map_cons, List.map_nil, Multiset.coe_singleton,
          Multiset.add_assoc, Multiset.singleton_add, Multiset.add_cons] at hnew
        exact (Multiset.cons_inj_right _).1 hnew
    · obtain ⟨_, -, rfl⟩ := hplaced.resolve_left nofun
      dsimp only at h
      rw [Action.runs_bind_iff] at h
      obtain ⟨undoing, _, ⟨unwrapped, restored⟩, middle, rfl, hrestore, hpure⟩ := h
      obtain ⟨rfl, he, rfl⟩ := Action.runs_pure_iff.1 hpure
      obtain ⟨rfl, rfl⟩ := Prod.mk.inj he
      obtain rfl := restores_of_wraps hmade.nodup hmade.wraps hrestore
      have hu := unwraps_of_restoreAll hrestore
      rw [List.append_nil] at *
      obtain ⟨hk', hr', hgone⟩ := unwrapAll_keeps hk.sound (hk.effect.accounts.occupies ho hfirst) hlast hmade.nodup
        (fun other ho => by rw [hc]; exact hmade.live other ho) hu
      refine ⟨hk.trans hk', hr.trans hr', .inr ⟨error, rfl, fun place hout block hb => ?_, by rw [← hc, hgone]⟩⟩
      rw [(loses_unwrapAll hu).kept hout, hb]

/-! ## The calls -/

/-- What a call on the command buffers of one pool does to its device. -/
structure Regrouped (bridge : Bridge) (handle : Option Handle) (owner : Address) (device : Device) (trace : Trace)
    (after : Bridge) (changed : Device) : Prop where
  handle : handle = some owner.toHandle
  found : bridge.blocks[owner]? = some (.device device)
  keeps : bridge.Keeps owner trace [] after
  left : after.blocks[owner]? = some (.device changed)
  regroups : device.Regroups trace changed

/-- The native driver made command buffers in answer to this request. -/
def AllocatedNatively (trace : Trace) (device : Device) (request : CommandBufferRequest) : Prop :=
  ∃ natives, .native (.allocateCommandBuffers device.native request) (.ok natives) ∈ trace

/-- What the native driver is asked for a request that it can meet: command buffers that each get their record, in order,
or that all go back because there is no memory for the records. -/
inductive Answered (after : Bridge) (owner : Address) (device : Device) (request : CommandBufferRequest) :
    Trace → List Address → Prop
  | wrapped {natives : Vector NativeHandle request.count.toNat} {new : List Address} :
      Wraps after owner request.pool new natives.toList →
        Answered after owner device request [.native (.allocateCommandBuffers device.native request) (.ok natives)] new
  | returned {natives : Vector NativeHandle request.count.toNat} :
      Answered after owner device request
        [.native (.allocateCommandBuffers device.native request) (.ok natives),
          .native (.freeCommandBuffers device.native request.pool natives.toList) ()] []

/-- The native driver is not asked for command buffers, or has none to give. -/
def Unanswered (trace : Trace) : Prop :=
  trace.commandBuffers = [] ∨
    ∃ device request code, trace.commandBuffers = [.native (.allocateCommandBuffers device request) (.error code)]

variable {handle : Option Handle}

/-- What is left to do for a request once the native driver has answered with command buffers. -/
def complete (owner : Address) (device : Device) (pool : NativeHandle) (allocator : Allocator) (natives : List NativeHandle) :
    Action (ResultCode × Option (List (Option Handle))) := do
  let (device, outcome) ← wrapAll owner pool allocator device [] natives
  modify (·.put owner (.device device))
  match outcome with
  | .ok addresses => pure (.success, some (addresses.map fun address => some address.toHandle))
  | .error (error, restored) =>
    Native.freeCommandBuffers device.native pool restored
    pure (error.deviceResult, some (natives.map fun _ => none))

/-- Each native command buffer gets its record, or all are given back. -/
theorem runs_complete {natives : List NativeHandle} {code : ResultCode} {stored : Option (List (Option Handle))}
    (hs : bridge.Sound) (ho : bridge.owned.Occupies places) (hf : trace.Fresh places)
    (hb : bridge.blocks[owner]? = some (.device device)) (hp : device.pools.get? pool = some allocator)
    (hl : device.pools.references pool + natives.length < 2 ^ 32)
    (h : (complete owner device pool allocator natives).Runs bridge trace (code, stored) after) :
    ∃ changed, ∃ new : List Address, bridge.Keeps owner trace [] after ∧ device.Regroups trace changed ∧
      after.blocks[owner]? = some (.device changed) ∧ (stored.getD []).filterMap id = new.map Address.toHandle ∧
        elements changed.commandBuffers = (new.map (pool, ·) : Multiset _) + elements device.commandBuffers ∧
          ((trace.commandBuffers = [] ∧ Wraps after owner pool new natives) ∨
            (trace.commandBuffers = [.native (.freeCommandBuffers device.native pool natives) ()] ∧ new = [])) ∧
            ∀ place : Address, place ≠ owner → ∀ block, bridge.blocks[place]? = some block →
              after.blocks[place]? = some block := by
  unfold complete at h
  rw [Action.runs_bind_iff] at h
  obtain ⟨wrapping, last, ⟨changed, outcome⟩, between, rfl, hw, h⟩ := h
  have hself := Bridge.put_self hb
  rw [← hself] at hs ho
  obtain ⟨hk, hr, hends⟩ := wrapAll_keeps hs ho (Trace.fresh_append_iff.1 hf).1 hp hl (.none ..) hw
  have hsilent := wrapAll_commandBuffers hw
  rw [hself] at hk
  simp only [Action.runs_bind_iff, Action.runs_modify_iff] at h
  obtain ⟨_, last, _, _, rfl, ⟨rfl, rfl⟩, h⟩ := h
  rw [List.nil_append]
  obtain ⟨new, rfl, hwraps, hkept, hnew⟩ | ⟨error, rfl, hkept, hnew⟩ := hends
  · obtain ⟨rfl, he, rfl⟩ := Action.runs_pure_iff.1 h
    obtain ⟨-, rfl⟩ := Prod.mk.inj he
    refine ⟨changed, new, by simpa using hk, by simpa using hr, Bridge.blocks_put_self, ?_, hnew, .inl ⟨?_, ?_⟩, ?_⟩
    · simp [List.filterMap_map]
    · rw [List.append_nil, hsilent]
    · refine hwraps.imp fun address native hplace => ?_
      rw [Bridge.blocks_put, hplace]
      rintro rfl
      rw [hkept address _ hb] at hplace
      cases hplace
    · intro place hne block hold
      rw [Bridge.blocks_put hne, hkept place block hold]
  · simp only [Action.runs_bind_iff, Action.runs_lift_iff, Action.runs_pure_iff, Prod.mk.injEq] at h
    obtain ⟨freeing, _, _, _, rfl, ⟨hfree, rfl⟩, rfl, ⟨-, rfl⟩, rfl⟩ := h
    have hi : Trace.Idle (freeing ++ []) := by simpa using Program.idle_native (fun _ => rfl) _ _ hfree
    refine ⟨changed, [], ?_, { hr with effect := hr.effect.before_idle hi }, Bridge.blocks_put_self, ?_, ?_,
      .inr ⟨?_, rfl⟩, ?_⟩
    · simpa using hk.trans (hk.sound.keeps_idle hi owner)
    · simp
    · simpa using hnew.symm
    · obtain rfl := Program.runs_native_iff.1 hfree
      rw [Trace.commandBuffers_append, hsilent, ← hr.same.native]
      rfl
    · intro place hne block hold
      rw [Bridge.blocks_put hne, hkept place List.not_mem_nil block hold]

/-- All command buffers of a request are made, or none is; the handles stored are those made, or null. -/
theorem runs_allocate {request : Option CommandBufferRequest} {code : ResultCode} {stored : Option (List (Option Handle))}
    (hs : bridge.Sound) (ho : bridge.owned.Occupies places) (hf : trace.Fresh places)
    (hl : ∀ (owner : Address) (device : Device) (wanted : CommandBufferRequest), handle = some owner.toHandle →
      bridge.blocks[owner]? = some (.device device) → request = some wanted → AllocatedNatively trace device wanted →
        device.pools.references wanted.pool + wanted.count.toNat < 2 ^ 32)
    (h : (allocate handle request).Runs bridge trace (code, stored) after) :
    (after = bridge ∧ trace.Idle ∧ stored = none ∧ Unanswered trace) ∨
      ∃ owner device changed wanted, ∃ new : List Address, Regrouped bridge handle owner device trace after changed ∧
        request = some wanted ∧ (stored.getD []).filterMap id = new.map Address.toHandle ∧
          elements changed.commandBuffers =
            (new.map (wanted.pool, ·) : Multiset _) + elements device.commandBuffers ∧
          Answered after owner device wanted trace.commandBuffers new ∧
          ∀ place : Address, place ≠ owner → ∀ block, bridge.blocks[place]? = some block →
            after.blocks[place]? = some block := by
  unfold allocate at h
  cases request with
  | none =>
    obtain ⟨rfl, he, rfl⟩ := Action.runs_pure_iff.1 h
    obtain ⟨-, rfl⟩ := Prod.mk.inj he
    exact .inl ⟨rfl, Trace.idle_nil, rfl, .inl rfl⟩
  | some wanted =>
  dsimp only at h
  rw [Action.runs_bind_iff] at h
  obtain ⟨resolving, last, resolved, between, rfl, hr, h⟩ := h
  obtain ⟨rfl, ⟨owner, device, hh, hb, rfl, rfl⟩ | ⟨-, rfl, hi⟩⟩ := hs.runs_resolve hr rfl
  · rw [List.nil_append] at *
    dsimp only at h
    split at h
    case h_1 hnone =>
      simp only [Action.runs_bind_iff, Action.runs_lift_iff, Action.runs_pure_iff, Prod.mk.injEq] at h
      obtain ⟨telling, _, _, _, rfl, ⟨hn, rfl⟩, rfl, ⟨-, rfl⟩, rfl⟩ := h
      refine .inl ⟨rfl, Trace.idle_append_iff.2 ⟨Program.idle_notice rfl _ _ hn, Trace.idle_nil⟩, rfl, .inl ?_⟩
      rw [Trace.commandBuffers_append, Program.aside_notice _ _ _ hn]
      rfl
    case h_2 allocator hp =>
      rw [Action.runs_bind_iff] at h
      obtain ⟨asking, last, answered, between, rfl, ha, h⟩ := h
      obtain ⟨ha', rfl⟩ := Action.runs_lift_iff.1 ha
      have hia := Program.idle_native (fun _ => rfl) _ _ ha'
      obtain rfl := Program.runs_native_iff.1 ha'
      cases answered with
      | error code =>
        obtain ⟨rfl, he, rfl⟩ := Action.runs_pure_iff.1 h
        obtain ⟨-, rfl⟩ := Prod.mk.inj he
        exact .inl ⟨rfl, Trace.idle_append_iff.2 ⟨hia, Trace.idle_nil⟩, rfl, .inr ⟨_, _, code, rfl⟩⟩
      | ok natives =>
        have hlimit := hl owner device wanted hh hb rfl ⟨natives, List.mem_cons_self ..⟩
        obtain ⟨hfirst, hlast⟩ := Trace.fresh_append_iff.1 hf
        obtain ⟨changed, new, hk, hr, hleft, hstored, hnew, hasks, hkept⟩ :=
          runs_complete hs ((hia.effect bridge.owned).accounts.occupies ho hfirst) hlast hb hp (by simpa using hlimit) h
        refine .inr ⟨owner, device, changed, wanted, new, ⟨hh, hb, (hs.keeps_idle hia owner).trans hk, hleft, ?_⟩, rfl,
          hstored, hnew, ?_, hkept⟩
        · exact { hr with effect := .after_idle hia hr.effect }
        · rw [Trace.commandBuffers_append]
          obtain ⟨hasks, hwraps⟩ | ⟨hasks, rfl⟩ := hasks
          · rw [hasks]
            exact .wrapped hwraps
          · rw [hasks]
            exact .returned
  · obtain ⟨rfl, he, rfl⟩ := Action.runs_pure_iff.1 h
    obtain ⟨-, rfl⟩ := Prod.mk.inj he
    refine .inl ⟨rfl, Trace.idle_append_iff.2 ⟨hi, Trace.idle_nil⟩, rfl, .inl ?_⟩
    rw [Trace.commandBuffers_append, (aside_resolve _ _ _ _ _ _ hr).1]
    rfl

/-- A batch that names command buffers of the pool, or null, gives up just these. -/
theorem freeAlone_keeps {batch : List (Option Handle)} {addresses : List Address}
    (hs : (bridge.put owner (.device device)).Sound)
    (ho : (bridge.put owner (.device device)).owned.Occupies places) (hf : trace.Fresh places)
    (hn : addresses.Nodup) (hm : ∀ address ∈ addresses, (pool, address) ∈ device.commandBuffers)
    (hb : batch.filterMap id = addresses.map Address.toHandle)
    (h : (freeAlone device pool batch).Runs bridge trace changed after) :
    (bridge.put owner (.device device)).Keeps owner trace [] (after.put owner (.device changed)) ∧
      device.Regroups trace changed ∧
      elements device.commandBuffers = (addresses.map (pool, ·) : Multiset _) + elements changed.commandBuffers ∧
      trace.commandBuffers = [.native (.freeCommandBuffers device.native pool (batch.map (nativeOrNull bridge))) ()] ∧
      bridge.Loses after addresses := by
  have hsd : device.Sound (bridge.put owner (.device device)) owner := hs owner _ Bridge.blocks_put_self
  have hvalid (accepted : Handle) (ha : some accepted ∈ batch) : ∃ record,
      bridge.record? .commandBuffer accepted = some record ∧ record.header.tag = ObjectKind.commandBuffer.tag := by
    have : accepted ∈ batch.filterMap id := List.mem_filterMap.2 ⟨some accepted, ha, rfl⟩
    rw [hb] at this
    obtain ⟨address, hma, rfl⟩ := List.mem_map.1 this
    obtain ⟨found, hfound, htag, -⟩ := hsd.commandBuffers pool address (hm address hma)
    have hne : address ≠ owner := by
      rintro rfl
      rw [Bridge.blocks_put_self] at hfound
      cases hfound
    rw [Bridge.blocks_put hne] at hfound
    exact ⟨found, Bridge.record?_commandBuffer_iff.2 ⟨rfl, hfound⟩, htag⟩
  unfold freeAlone at h
  simp only [Action.runs_bind_iff, Action.runs_lift_iff] at h
  obtain ⟨resolving, _, entries, between, rfl, hr, freeing, last, _, _, rfl, ⟨hn', rfl⟩, h⟩ := h
  obtain ⟨rfl, hi, he, hnatives⟩ := runs_resolveEntries hvalid hr
  have hi' := Program.idle_native (fun _ => rfl) _ _ hn'
  have haddresses : entries.filterMap (·.map (·.1)) = addresses := by
    rw [he, hb, List.map_map]
    exact List.map_id addresses
  rw [haddresses] at h
  rw [hnatives] at hn'
  have hasks : Trace.commandBuffers (resolving ++ (freeing ++ last)) =
      [.native (.freeCommandBuffers device.native pool (batch.map (nativeOrNull between))) ()] := by
    obtain ⟨_, hfree, -⟩ := runs_unwrapAll h
    rw [Trace.commandBuffers_append, Trace.commandBuffers_append, (aside_resolveEntries _ _ _ _ _ hr).1,
      (aside_freeAll _ _ _ _ _ _ hfree).1, Program.runs_native_iff.1 hn']
    rfl
  rw [hasks]
  rw [← List.append_assoc] at hf ⊢
  have hidle := Trace.idle_append_iff.2 ⟨hi, hi'⟩
  obtain ⟨hfirst, hlast⟩ := Trace.fresh_append_iff.1 hf
  obtain ⟨hk, hregroups, hgone⟩ := unwrapAll_keeps hs ((hidle.effect _).accounts.occupies ho hfirst) hlast hn hm h
  refine ⟨(hs.keeps_idle hidle owner).trans hk, ?_, hgone, rfl, loses_unwrapAll h⟩
  exact { hregroups with effect := .after_idle hidle hregroups.effect }

theorem freeEach_keeps {batches : List (List (Option Handle))} {addresses : List Address}
    (hs : (bridge.put owner (.device device)).Sound)
    (ho : (bridge.put owner (.device device)).owned.Occupies places) (hf : trace.Fresh places)
    (hn : addresses.Nodup) (hm : ∀ address ∈ addresses, (pool, address) ∈ device.commandBuffers)
    (hb : batches.flatten.filterMap id = addresses.map Address.toHandle)
    (h : (freeEach device pool batches).Runs bridge trace changed after) :
    (bridge.put owner (.device device)).Keeps owner trace [] (after.put owner (.device changed)) ∧
      device.Regroups trace changed ∧
      elements device.commandBuffers = (addresses.map (pool, ·) : Multiset _) + elements changed.commandBuffers ∧
      trace.commandBuffers = batches.map (fun batch =>
        .native (.freeCommandBuffers device.native pool (batch.map (nativeOrNull bridge))) ()) ∧
      bridge.Loses after addresses := by
  induction batches generalizing bridge device trace places addresses with
  | nil =>
    obtain ⟨rfl, rfl, rfl⟩ := Action.runs_pure_iff.1 h
    obtain rfl : addresses = [] := by simpa using hb.symm
    exact ⟨hs.keeps_idle Trace.idle_nil owner, .refl device, by simp, rfl, .refl bridge _⟩
  | cons batch rest ih =>
    rw [freeEach, Action.runs_bind_iff] at h
    obtain ⟨first, last, between, middle, rfl, hbatch, h⟩ := h
    obtain ⟨hfirst, hlast⟩ := Trace.fresh_append_iff.1 hf
    rw [List.flatten_cons, List.filterMap_append] at hb
    obtain ⟨own, others, rfl, hown, hothers⟩ := List.map_eq_append_iff.1 hb.symm
    obtain ⟨hnown, hnothers, hdisjoint⟩ := List.nodup_append.1 hn
    obtain ⟨hk, hr, hgone, hasks, hlost⟩ := freeAlone_keeps hs ho hfirst hnown
      (fun address ha => hm address (List.mem_append_left _ ha)) hown.symm hbatch
    have hleft (address) (ha : address ∈ others) : (pool, address) ∈ between.commandBuffers := by
      have := mem_elements.2 (hm address (List.mem_append_right _ ha))
      rw [hgone, Multiset.mem_add] at this
      refine mem_elements.1 (this.resolve_left fun hown => ?_)
      obtain ⟨address', ha', heq⟩ := List.mem_map.1 (Multiset.mem_coe.1 hown)
      exact hdisjoint address' ha' address ha (Prod.mk.inj heq).2
    obtain ⟨hk', hr', hgone', hasks', hlost'⟩ :=
      ih hk.sound (hk.effect.accounts.occupies ho hfirst) hlast hnothers hleft hothers.symm h
    refine ⟨hk.trans hk', hr.trans hr', ?_, ?_, hlost.trans hlost'⟩
    · rw [hgone, hgone', List.map_append, ← Multiset.coe_add, Multiset.add_assoc]
    · -- The records of the batches to come are as they were before this one.
      rw [Trace.commandBuffers_append, hasks, hasks', hr.same.native, List.map_cons, List.singleton_append]
      refine congrArg _ (List.map_congr_left fun other hother => ?_)
      rw [List.map_congr_left fun entry hentry => ?_]
      cases entry with
      | none => rfl
      | some handle =>
        have : handle ∈ rest.flatten.filterMap id :=
          List.mem_filterMap.2 ⟨some handle, List.mem_flatten.2 ⟨other, hother, hentry⟩, rfl⟩
        rw [← hothers] at this
        obtain ⟨address, ha, rfl⟩ := List.mem_map.1 this
        have hout : address ∉ own := fun hown => hdisjoint address hown address ha rfl
        simp only [nativeOrNull, at?, Bridge.record?, Option.bind_some, Address.toHandle, hlost.kept hout]

/-- The command buffers of a list go, if all are of the pool. -/
theorem runs_freeList {commandBuffers : Span (Option Handle)} {result : Unit}
    (hs : bridge.Sound) (ho : bridge.owned.Occupies places) (hf : trace.Fresh places)
    (hv : ∀ (owner : Address) (device : Device), handle = some owner.toHandle →
      bridge.blocks[owner]? = some (.device device) → ∃ addresses : List Address, addresses.Nodup ∧
        (∀ address ∈ addresses, (pool, address) ∈ device.commandBuffers) ∧
          commandBuffers.toList.filterMap id = addresses.map Address.toHandle)
    (h : (freeList handle pool commandBuffers).Runs bridge trace result after) :
    (after = bridge ∧ trace.Idle ∧ (commandBuffers.toList = [] ∨ bridge.Lacks .device handle) ∧ trace.commandBuffers = []) ∨
      ∃ owner device changed, ∃ addresses : List Address, Regrouped bridge handle owner device trace after changed ∧
        commandBuffers.toList.filterMap id = addresses.map Address.toHandle ∧
          elements device.commandBuffers =
            (addresses.map (pool, ·) : Multiset _) + elements changed.commandBuffers ∧
          trace.commandBuffers = (batches Platform.batchSize commandBuffers.toList).map (fun batch =>
            .native (.freeCommandBuffers device.native pool (batch.map (nativeOrNull bridge))) ()) ∧
          ∃ between, bridge.Loses between addresses ∧ after = between.put owner (.device changed) := by
  unfold freeList at h
  split at h
  case h_1 hnil =>
    obtain ⟨rfl, -, rfl⟩ := Action.runs_pure_iff.1 h
    exact .inl ⟨rfl, Trace.idle_nil, .inl hnil, rfl⟩
  case h_2 =>
    rw [Action.runs_bind_iff] at h
    obtain ⟨resolving, last, resolved, between, rfl, hr, h⟩ := h
    obtain ⟨rfl, ⟨owner, device, hh, hb, rfl, rfl⟩ | ⟨hno, rfl, hi⟩⟩ := hs.runs_resolve hr rfl
    · obtain ⟨addresses, hn, hm, haddresses⟩ := hv owner device hh hb
      rw [List.nil_append] at *
      simp only [Action.runs_bind_iff, Action.runs_modify_iff] at h
      obtain ⟨freeing, _, changed, between, rfl, hfree, rfl, rfl⟩ := h
      rw [freeBatches_eq (batched_batches (by decide) _).small] at hfree
      rw [List.append_nil] at *
      have hself := Bridge.put_self hb
      rw [← hself] at hs ho
      obtain ⟨hk, hregroups, hgone, hasks, hlost⟩ := freeEach_keeps hs ho hf hn hm
        (by rw [flatten_batches (by decide), haddresses]) hfree
      rw [hself] at hk
      exact .inr ⟨owner, device, changed, addresses, ⟨hh, hb, hk, Bridge.blocks_put_self, hregroups⟩, haddresses, hgone,
        hasks, between, hlost, rfl⟩
    · obtain ⟨rfl, -, rfl⟩ := Action.runs_pure_iff.1 h
      refine .inl ⟨rfl, Trace.idle_append_iff.2 ⟨hi, Trace.idle_nil⟩, .inr hno, ?_⟩
      rw [Trace.commandBuffers_append, (aside_resolve _ _ _ _ _ _ hr).1]
      rfl

end CommandBuffer

end VulkanBridge
