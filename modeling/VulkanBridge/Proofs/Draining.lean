import VulkanBridge.CommandPool
import VulkanBridge.Device.Lifecycle
import VulkanBridge.Proofs.Contents
import Mathlib.Data.List.Sort
/-!
# Draining the live command buffers

A pool or a device that goes looks for its first live command buffer again and again, in a set that gets smaller. What it
finds, one after another, are those that were live at the outset, in ascending order (`CommandBuffer.drain_eq`). For a pool
they are all of its handle, whatever the handle is (`CommandBuffer.ofPool_iff`).
-/

namespace VulkanBridge

namespace CommandBuffer

variable {live : LiveCommandBuffers} {meant : NativeHandle × Address → Bool} {entry : NativeHandle × Address}
  {pool : NativeHandle}

/-! ## The order of live command buffers -/

/-- The order of live command buffers: by pool, and then by address. -/
def Precedes (entry other : NativeHandle × Address) : Prop :=
  entry.1 < other.1 ∨ entry.1 = other.1 ∧ entry.2.value < other.2.value

instance : Std.Irrefl Precedes where
  irrefl entry h := by
    obtain h | ⟨-, h⟩ := h
    · exact UInt64.lt_irrefl _ h
    · exact UInt64.lt_irrefl _ h

instance : Std.Antisymm Precedes where
  antisymm entry other h h' := by
    -- No two entries precede each other.
    exfalso
    simp only [Precedes, UInt64.lt_iff_toNat_lt, ← UInt64.toNat_inj] at h h'
    omega

theorem precedes_iff {other : NativeHandle × Address} : lexOrd.compare entry other = .lt ↔ Precedes entry other := by
  show (compare entry.1 other.1).then (compare entry.2.value other.2.value) = .lt ↔ _
  rw [Ordering.then_eq_lt, Std.compare_eq_lt, Std.compare_eq_iff_eq, Std.compare_eq_lt, Precedes]

theorem pairwise_toList (live : LiveCommandBuffers) : live.toList.Pairwise Precedes :=
  Std.ExtTreeSet.ordered_toList.imp precedes_iff.1

theorem compare_isLE_iff {other : NativeHandle × Address} : (lexOrd.compare entry other).isLE ↔
    entry.1 < other.1 ∨ entry.1 = other.1 ∧ entry.2.value ≤ other.2.value := by
  show ((compare entry.1 other.1).then (compare entry.2.value other.2.value)).isLE ↔ _
  rw [Ordering.isLE_then_iff_or, Std.compare_eq_lt, Std.compare_eq_iff_eq, Std.LawfulOrderOrd.isLE_compare]

/-- The bounds of a pool enclose its own command buffers and no others. -/
theorem ofPool_iff : ofPool pool entry ↔ entry.1 = pool := by
  have hlow : Address.lowest.value ≤ entry.2.value := UInt64.zero_le
  have hhigh : entry.2.value ≤ Address.highest.value := by
    rw [UInt64.le_iff_toNat_le]
    exact Nat.le_of_lt_succ (UInt64.toNat_lt _)
  rw [ofPool, Bool.and_eq_true, compare_isLE_iff, compare_isLE_iff, eq_comm (a := pool)]
  simp only [hlow, hhigh, and_true, UInt64.lt_iff_toNat_lt, ← UInt64.toNat_inj]
  omega

/-- What is meant is the first that is found, and what is meant of those that are left. -/
theorem filter_of_first? (h : first? live meant = some entry) :
    live.toList.filter meant = entry :: (live.erase entry).toList.filter meant := by
  have hhead : (live.toList.filter meant).head? = some entry := by rwa [List.head?_filter]
  obtain ⟨rest, hrest⟩ := List.head?_eq_some_iff.1 hhead
  have hsorted := (pairwise_toList live).filter meant
  rw [hrest] at hsorted ⊢
  refine congrArg _ (hsorted.of_cons.eq_of_mem_iff ((pairwise_toList _).filter meant) fun other => ?_)
  have hmem : other ∈ entry :: rest ↔ other ∈ live ∧ meant other := by
    rw [← hrest, List.mem_filter, Std.ExtTreeSet.mem_toList]
  have hout : entry ∉ rest := fun hm => Std.Irrefl.irrefl _ (List.rel_of_pairwise_cons hsorted hm)
  rw [List.mem_filter, Std.ExtTreeSet.mem_toList, mem_erase_iff, and_assoc, ← hmem, List.mem_cons]
  constructor
  · intro hm
    refine ⟨?_, .inr hm⟩
    rintro rfl
    exact hout hm
  · rintro ⟨hne, hm⟩
    exact hm.resolve_left hne

/-! ## One after another -/

/-- Give the records of command buffers back, one after another. -/
def freeAll (pools : Registry) : List Address → Action Registry
  | [] => pure pools
  | address :: rest => do freeAll (← free pools address) rest

/-- The device without some command buffers. -/
def withoutAll (device : Device) (pools : Registry) (entries : List (NativeHandle × Address)) : Device :=
  { device with pools, commandBuffers := entries.foldl (·.erase ·) device.commandBuffers }

/-- The command buffers that are meant go in ascending order. -/
theorem drain_eq (device : Device) : drain meant device =
    freeAll device.pools ((device.commandBuffers.toList.filter meant).map (·.2)) >>= fun pools =>
      pure (withoutAll device pools (device.commandBuffers.toList.filter meant)) := by
  fun_induction drain meant device with
  | case1 device h =>
    have hnil : device.commandBuffers.toList.filter meant = [] :=
      List.filter_eq_nil_iff.2 fun entry hm => List.find?_eq_none.1 h entry hm
    rw [hnil]
    rfl
  | case2 device entry h ih =>
    rw [filter_of_first? h]
    simp only [ih, List.map_cons, freeAll, bind_assoc]
    rfl

end CommandBuffer

end VulkanBridge
