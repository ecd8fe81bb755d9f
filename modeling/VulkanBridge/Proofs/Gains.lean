import VulkanBridge.Proofs.CommandBuffers
/-!
# The difference that command buffers make

`Device.Gains` says all there is to say about two records of a device of which one has some more command buffers of a
pool: those are in its live set besides, the pool's entry counts them, and nothing else is different. It is read in both
directions, and what is gained and given up again leaves no trace (`Gains.left_unique`). `Bridge.SameElsewhere` does the
same for states that differ at known places only.
-/

namespace VulkanBridge

/-! ## Records of a device -/

namespace Device

variable {device middle changed other : Device} {pool : NativeHandle} {new later : List Address}

/-- The second record is the first with these command buffers of the pool besides. They were not live before, each has a
reference to the pool's entry, and there is no other difference. -/
structure Gains (device : Device) (pool : NativeHandle) (new : List Address) (changed : Device) : Prop where
  rest : changed = { device with pools := changed.pools, commandBuffers := changed.commandBuffers }
  fresh : ∀ place ∈ new, (pool, place) ∉ device.commandBuffers
  live : ∀ entry, entry ∈ changed.commandBuffers ↔ entry ∈ device.commandBuffers ∨ entry ∈ new.map (pool, ·)
  others : ∀ other, other ≠ pool → changed.pools.entries[other]? = device.pools.entries[other]?
  counted : ∃ (entry : Registry.Entry) (references : UInt32), device.pools.entries[pool]? = some entry ∧
    changed.pools.entries[pool]? = some { entry with references } ∧
      references.toNat = entry.references.toNat + new.length

namespace Gains

theorem refl {allocator : Allocator} (h : device.pools.get? pool = some allocator) : device.Gains pool [] device where
  rest := rfl
  fresh := nofun
  live entry := by simp
  others _ _ := rfl
  counted := by
    obtain ⟨entry, he, -⟩ := Registry.get?_eq_some_iff.1 h
    exact ⟨entry, entry.references, he, he, rfl⟩

theorem trans (hf : device.Gains pool new middle) (hl : middle.Gains pool later changed) :
    device.Gains pool (new ++ later) changed where
  rest := by rw [hl.rest, hf.rest]
  fresh place hm := by
    obtain hm | hm := List.mem_append.1 hm
    · exact hf.fresh place hm
    · exact fun hold => hl.fresh place hm ((hf.live _).2 (.inl hold))
  live entry := by rw [hl.live, hf.live, List.map_append, List.mem_append, or_assoc]
  others other hne := (hl.others other hne).trans (hf.others other hne)
  counted := by
    obtain ⟨entry, references, he, hm, hr⟩ := hf.counted
    obtain ⟨found, references', hfound, hc, hr'⟩ := hl.counted
    obtain rfl := Option.some.inj (hm.symm.trans hfound)
    refine ⟨entry, references', he, hc, ?_⟩
    rw [hr', List.length_append, ← Nat.add_assoc]
    exact congrArg (· + later.length) hr

/-- The order of the new ones does not matter. -/
theorem perm (h : device.Gains pool new changed) (hp : new.Perm later) : device.Gains pool later changed where
  rest := h.rest
  fresh place hm := h.fresh place (hp.mem_iff.2 hm)
  live entry := by rw [h.live, (hp.map _).mem_iff]
  others := h.others
  counted := by rw [← hp.length_eq]; exact h.counted

/-- Who has the same command buffers besides is the same. -/
theorem left_unique (h : device.Gains pool new changed) (h' : other.Gains pool new changed) : other = device := by
  have hlive : other.commandBuffers = device.commandBuffers := by
    refine Std.ExtTreeSet.ext_mem fun entry => ?_
    -- What is not new is live before if it is after.
    have old {some : Device} (hs : some.Gains pool new changed) :
        entry ∈ some.commandBuffers ↔ entry ∈ changed.commandBuffers ∧ entry ∉ new.map (pool, ·) := by
      rw [hs.live]
      constructor
      · intro hm
        refine ⟨.inl hm, fun hnew => ?_⟩
        obtain ⟨place, hplace, rfl⟩ := List.mem_map.1 hnew
        exact hs.fresh place hplace hm
      · rintro ⟨hm, hnew⟩
        exact hm.resolve_right hnew
    rw [old h, old h']
  have hpools : other.pools = device.pools := by
    obtain ⟨entry, references, he, hc, hr⟩ := h.counted
    obtain ⟨entry', references', he', hc', hr'⟩ := h'.counted
    have heq : entry' = entry := by
      obtain ⟨allocator, count, address⟩ := entry
      obtain ⟨allocator', count', address'⟩ := entry'
      simp only [hc, Option.some.injEq, Registry.Entry.mk.injEq] at hc'
      obtain ⟨rfl, rfl, rfl⟩ := hc'
      have : count' = count := UInt32.toNat_inj.1 (Nat.add_right_cancel (hr'.symm.trans hr))
      rw [this]
    suffices other.pools.entries = device.pools.entries from congrArg Registry.mk this
    refine Std.ExtTreeMap.ext_getElem? fun handle => ?_
    by_cases hpool : handle = pool
    · rw [hpool, he, he', heq]
    · rw [← h.others handle hpool, ← h'.others handle hpool]
  have hrest := h.rest
  have hrest' := h'.rest
  obtain ⟨_, _, _, _, _, _, _, _⟩ := device
  obtain ⟨_, _, _, _, _, _, _, _⟩ := other
  rw [hrest'] at hrest
  simp only [mk.injEq] at hrest hlive hpools ⊢
  tauto

theorem native (h : device.Gains pool new changed) : changed.native = device.native := by rw [h.rest]

theorem references (h : device.Gains pool new changed) :
    changed.pools.references pool = device.pools.references pool + new.length := by
  obtain ⟨entry, references, he, hc, hr⟩ := h.counted
  rw [Registry.references_of_some he, Registry.references_of_some hc]
  exact hr

theorem allocators (h : device.Gains pool new changed) (handle : NativeHandle) :
    changed.pools.get? handle = device.pools.get? handle := by
  by_cases hpool : handle = pool
  · obtain ⟨entry, references, he, hc, -⟩ := h.counted
    rw [hpool, Registry.get?, Registry.get?, he, hc]
    rfl
  · rw [Registry.get?, Registry.get?, h.others handle hpool]

end Gains

end Device

namespace CommandBuffer

variable {device : Device} {pool : NativeHandle} {entry : Registry.Entry} {place : Address}

theorem gains_gaining (he : device.pools.entries[pool]? = some entry) (hl : device.pools.references pool + 1 < 2 ^ 32)
    (hout : (pool, place) ∉ device.commandBuffers) : device.Gains pool [place] (gaining device pool entry place) where
  rest := rfl
  fresh other hm := by rwa [List.mem_singleton.1 hm]
  live other := by rw [gaining, mem_insert_iff, List.map_singleton, List.mem_singleton, or_comm]
  others other hne := Registry.entries_retain hne
  counted := by
    refine ⟨entry, entry.references + 1, he, Registry.entries_retain_self, ?_⟩
    rw [Registry.references_of_some he] at hl
    rw [UInt32.toNat_add, UInt32.toNat_one, Nat.mod_eq_of_lt hl, List.length_singleton]

/-- Giving one up is gaining it, read backwards. -/
theorem without_gains (he : device.pools.entries[pool]? = some entry) (hr : entry.references ≠ 0)
    (hm : (pool, place) ∈ device.commandBuffers) :
    (without device (device.pools.yield pool entry) (pool, place)).Gains pool [place] device where
  rest := rfl
  fresh other ho := by
    rw [List.mem_singleton.1 ho, without, mem_erase_iff]
    exact fun h => h.1 rfl
  live other := by
    rw [without, mem_erase_iff, List.map_singleton, List.mem_singleton]
    by_cases heq : other = (pool, place)
    · simp [heq, hm]
    · simp [heq]
  others other hne := (Registry.entries_yield hne).symm
  counted := by
    have hyield := Registry.references_yield_self he hr
    rw [Registry.references_of_some he, Registry.references_of_some Registry.entries_yield_self] at hyield
    exact ⟨_, entry.references, Registry.entries_yield_self, he, hyield.symm⟩

end CommandBuffer

/-! ## States -/

namespace Bridge

variable {bridge after last : Bridge} {places others : List Address}

/-- The states differ in nothing but the blocks at these places. -/
structure SameElsewhere (bridge after : Bridge) (places : List Address) : Prop where
  config : after.config = bridge.config
  staticEntry : after.staticEntry = bridge.staticEntry
  blocks : ∀ place : Address, place ∉ places → after.blocks[place]? = bridge.blocks[place]?

namespace SameElsewhere

theorem refl (bridge : Bridge) (places : List Address) : bridge.SameElsewhere bridge places := ⟨rfl, rfl, fun _ _ => rfl⟩

theorem put (bridge : Bridge) (place : Address) (block : Block) : bridge.SameElsewhere (bridge.put place block) [place] :=
  ⟨rfl, rfl, fun _ hm => blocks_put fun he => hm (List.mem_singleton.2 he)⟩

theorem remove (bridge : Bridge) (place : Address) : bridge.SameElsewhere (bridge.remove place) [place] :=
  ⟨rfl, rfl, fun _ hm => blocks_remove fun he => hm (List.mem_singleton.2 he)⟩

theorem trans (hf : bridge.SameElsewhere after places) (hl : after.SameElsewhere last others) :
    bridge.SameElsewhere last (places ++ others) where
  config := hl.config.trans hf.config
  staticEntry := hl.staticEntry.trans hf.staticEntry
  blocks place hm := by
    rw [List.mem_append, not_or] at hm
    rw [hl.blocks place hm.2, hf.blocks place hm.1]

theorem mono (h : bridge.SameElsewhere after places) (hs : places ⊆ others) : bridge.SameElsewhere after others :=
  ⟨h.config, h.staticEntry, fun place hm => h.blocks place fun hp => hm (hs hp)⟩

/-- States that agree at these places too are the same. -/
theorem eq (h : bridge.SameElsewhere after places)
    (hp : ∀ place ∈ places, after.blocks[place]? = bridge.blocks[place]?) : after = bridge := by
  have hblocks : after.blocks = bridge.blocks := by
    refine Std.ExtTreeMap.ext_getElem? fun place => ?_
    by_cases hm : place ∈ places
    · exact hp place hm
    · exact h.blocks place hm
  obtain ⟨_, _, _⟩ := bridge
  obtain ⟨_, _, _⟩ := after
  have hconfig := h.config
  have hstatic := h.staticEntry
  subst hblocks hconfig hstatic
  rfl

end SameElsewhere

end Bridge

end VulkanBridge
