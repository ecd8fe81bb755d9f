import VulkanBridge.Proofs.Storage
import VulkanBridge.Proofs.Submissions
import Mathlib.Algebra.GroupWithZero.Nat
/-!
# Sizes are exact

No size ever wraps. Where a size is needed, it is the number it stands for, or it passes the limit and the call ends before
it asks for anything: so it is with the block for a list of submissions, and with arrays of elements of any size and
alignment (`sizes_exact`).
-/

namespace VulkanBridge

namespace Submission

variable {α : Type} {submissions : List (Submission α)}

/-- The numbers of command buffers in the single submissions add up to the number of all. -/
theorem sum_commandBuffers (submissions : List (Submission α)) :
    (submissions.map (·.commandBuffers.length)).sum = (entries submissions).length := by
  rw [entries, List.length_flatMap]

/-- The number of all command buffers is a word. -/
theorem length_entries_lt (h : Counted submissions) : (entries submissions).length < 2 ^ 64 := by
  rw [← toNat_totalCommandBuffers h]
  exact UInt64.toNat_lt _

/-- The block for submissions has its exact size, with the native handles right behind the descriptions, or there is none. -/
theorem blockLayout?_exact (count total : UInt64) :
    (72 * count.toNat + 8 * total.toNat ≤ 2 ^ 63 - 8 → ∃ block offset, blockLayout? count total = some (block, offset) ∧
        block.size.toNat = 72 * count.toNat + 8 * total.toNat ∧ block.alignment = 8 ∧ offset.toNat = 72 * count.toNat) ∧
      (2 ^ 63 - 8 < 72 * count.toNat + 8 * total.toNat → blockLayout? count total = none) := by
  rw [blockLayout?_eq]
  constructor
  · intro hfits
    rw [if_pos hfits]
    refine ⟨_, _, rfl, toNat_blockSize hfits, rfl, ?_⟩
    simp only [UInt64.toNat_mul, UInt64.reduceToNat]
    omega
  · intro hlarge
    rw [if_neg (Nat.not_le.2 hlarge)]

/-- Submissions whose block would pass the limit are given up before anything is asked. -/
theorem tells_submitTo_of_large {submissions : List (Submission (Option Handle))} (bridge : Bridge) (queue fence : NativeHandle)
    (allocator : Allocator) (h : Counted submissions) (hlarge : 2 ^ 63 - 8 < needed submissions) :
    (submitTo queue allocator submissions fence).Tells bridge [] (.error .outOfHostMemory) := by
  have hsome : totalCommandBuffers submissions ≠ 0 := by
    intro hz
    rw [needed, (totalCommandBuffers_eq_zero_iff h).1 hz, List.length_nil] at hlarge
    have := h.1
    omega
  have hnone : blockLayout? submissions.length.toUInt64 (totalCommandBuffers submissions) = none := by
    apply (blockLayout?_exact _ _).2
    rw [toNat_length h, toNat_totalCommandBuffers h]
    exact hlarge
  unfold submitTo
  rw [if_neg hsome, hnone]
  exact Action.tells_pure bridge _

end Submission

namespace Allocator

variable {allocator : Allocator} {element : Layout} {length : UInt64} {scope : Scope} {trace : Trace} {k : Nat}

/-! ## Arrays of any elements -/

theorem runs_allocateArray_empty {result : Except CallError (Option Address)} :
    (allocator.allocateArray element 0 scope).Runs trace result ↔ trace = [] ∧ result = .ok none := by
  rw [allocateArray, if_pos rfl, Program.runs_pure_iff, eq_comm (a := result)]

/-- An array that passes the limit is refused before anything is asked. -/
theorem runs_allocateArray_of_large {result : Except CallError (Option Address)} (hz : length ≠ 0)
    (hl : element.array? length = none) :
    (allocator.allocateArray element length scope).Runs trace result ↔ trace = [] ∧ result = .error .outOfHostMemory := by
  unfold allocateArray allocateElements
  rw [if_neg hz, hl, eq_comm (a := result)]
  exact Iff.rfl

/-- An array that is not empty and does not pass the limit is one allocation of its size. -/
theorem runs_allocateArray_of_fits {result : Except CallError (Option Address)} (hz : length ≠ 0)
    (hl : element.array? length = some (element.array length)) (hs : (element.array length).Sound) :
    (allocator.allocateArray element length scope).Runs trace result ↔
      ∃ answer : Option Address, trace = allocator.asks (element.array length) scope answer ∧
        (answer.isSome → trace.length = 1) ∧ result = answer.elim (.error .outOfHostMemory) fun address => .ok (some address) := by
  unfold allocateArray allocateElements
  rw [if_neg hz, hl]
  simp only [Program.runs_bind_iff, runs_allocateObject_iff hs]
  constructor
  · rintro ⟨_, _, _, rfl, ⟨answer, rfl, hone, rfl⟩, hlast⟩
    cases answer with
    | none =>
      obtain ⟨rfl, rfl⟩ := hlast
      exact ⟨none, List.append_nil _, nofun, rfl⟩
    | some address =>
      obtain ⟨rfl, rfl⟩ := hlast
      rw [List.append_nil]
      exact ⟨some address, rfl, hone, rfl⟩
  · rintro ⟨answer, rfl, hone, rfl⟩
    refine ⟨_, [], _, (List.append_nil _).symm, ⟨answer, rfl, hone, rfl⟩, ?_⟩
    cases answer with
    | none => exact ⟨rfl, rfl⟩
    | some address => exact ⟨rfl, rfl⟩

/-- There is nothing to give back of an array that was never allocated. -/
theorem runs_freeArray_of_nothing {block : Option Address} {result : Unit} (h : length = 0 ∨ element.array? length = none) :
    (allocator.freeArray element length block).Runs trace result ↔ trace = [] := by
  unfold freeArray
  split
  case isTrue => simp
  case isFalse hz =>
    rw [h.resolve_left hz]
    simp

theorem runs_freeArray_of_fits {address : Address} {result : Unit} (hz : length ≠ 0)
    (hl : element.array? length = some (element.array length)) (hs : (element.array length).Sound) :
    (allocator.freeArray element length (some address)).Runs trace result ↔
      trace = allocator.returns (element.array length) address := by
  unfold freeArray
  rw [if_neg hz, hl]
  exact runs_freeObject_iff hs

/-- What is asked for an array and what is given back of it. -/
structure ExactArray (allocator : Allocator) (element : Layout) (length : UInt64) (scope : Scope) : Prop where
  /-- An empty array takes no memory. -/
  empty : length = 0 → ∀ trace result, (allocator.allocateArray element length scope).Runs trace result ↔
    trace = [] ∧ result = .ok none
  /-- An array beyond the limit is refused without a request. -/
  large : 2 ^ 63 - element.alignment.toNat < length.toNat * element.size.toNat →
    ∀ trace result, (allocator.allocateArray element length scope).Runs trace result ↔
      trace = [] ∧ result = .error .outOfHostMemory
  /-- Of an array that took no memory nothing is given back. -/
  nothing : length = 0 ∨ 2 ^ 63 - element.alignment.toNat < length.toNat * element.size.toNat →
    ∀ block trace result, (allocator.freeArray element length block).Runs trace result ↔ trace = []
  /-- Any other array is one request for its exact size, and just that is given back. -/
  fits : length ≠ 0 → length.toNat * element.size.toNat ≤ 2 ^ 63 - element.alignment.toNat →
    ∃ array : Layout, array.size.toNat = length.toNat * element.size.toNat ∧ array.alignment = element.alignment ∧
      (∀ trace result, (allocator.allocateArray element length scope).Runs trace result ↔
        ∃ answer : Option Address, trace = allocator.asks array scope answer ∧ (answer.isSome → trace.length = 1) ∧
          result = answer.elim (.error .outOfHostMemory) fun address => .ok (some address)) ∧
      ∀ address trace result, (allocator.freeArray element length (some address)).Runs trace result ↔
        trace = allocator.returns array address

/-- Arrays are exact at every alignment. -/
theorem exactArray (allocator : Allocator) (length : UInt64) (scope : Scope) (hs : 0 < element.size.toNat)
    (ha : element.alignment.toNat = 2 ^ k) : allocator.ExactArray element length scope := by
  have hsize : element.size ≠ 0 := by
    intro he
    rw [he, UInt64.toNat_zero] at hs
    omega
  have hlayout : element.array? length =
      if length.toNat * element.size.toNat ≤ 2 ^ 63 - element.alignment.toNat then some (element.array length) else none := by
    rw [Layout.array?_eq hsize, Layout.toNat_limit ha, Nat.mul_comm]
  have hnone (hlarge : 2 ^ 63 - element.alignment.toNat < length.toNat * element.size.toNat) :
      element.array? length = none := by
    rw [hlayout, if_neg (Nat.not_le.2 hlarge)]
  constructor
  case empty =>
    rintro rfl trace result
    exact runs_allocateArray_empty
  case large =>
    intro hlarge trace result
    have hz : length ≠ 0 := by
      rintro rfl
      simp at hlarge
    exact runs_allocateArray_of_large hz (hnone hlarge)
  case nothing =>
    intro h block trace result
    exact runs_freeArray_of_nothing (h.imp_right hnone)
  case fits =>
    intro hz hfits
    have hlimit : element.size.toNat * length.toNat ≤ (Layout.limit element.alignment).toNat := by
      rw [Layout.toNat_limit ha, Nat.mul_comm]
      exact hfits
    have hsound := Layout.array_sound hsize hz ha hlimit
    rw [if_pos hfits] at hlayout
    refine ⟨element.array length, ?_, rfl, fun trace result => ?_, fun address trace result => ?_⟩
    · rw [Layout.toNat_size_array hlimit, Nat.mul_comm]
    · exact runs_allocateArray_of_fits hz hlayout hsound
    · exact runs_freeArray_of_fits hz hlayout hsound

end Allocator

/-- No size wraps. The command buffers of submissions are counted exactly; the block for them has its exact size, and where
that passes the limit they are given up without a request; and any array is asked for with its exact size, or empty, or given
up without a request. -/
theorem sizes_exact :
    (∀ {α : Type} (submissions : List (Submission α)), Submission.Counted submissions →
      (Submission.totalCommandBuffers submissions).toNat = (submissions.map (·.commandBuffers.length)).sum ∧
        (submissions.map (·.commandBuffers.length)).sum < 2 ^ 64) ∧
    (∀ count total : UInt64,
      (72 * count.toNat + 8 * total.toNat ≤ 2 ^ 63 - 8 → ∃ block offset,
        Submission.blockLayout? count total = some (block, offset) ∧ block.size.toNat = 72 * count.toNat + 8 * total.toNat ∧
          block.alignment = 8 ∧ offset.toNat = 72 * count.toNat) ∧
      (2 ^ 63 - 8 < 72 * count.toNat + 8 * total.toNat → Submission.blockLayout? count total = none)) ∧
    (∀ (bridge : Bridge) (queue fence : NativeHandle) (allocator : Allocator) (submissions : List (Submission (Option Handle))),
      Submission.Counted submissions →
      2 ^ 63 - 8 < 72 * submissions.length + 8 * (submissions.map (·.commandBuffers.length)).sum →
      (Submission.submitTo queue allocator submissions fence).Tells bridge [] (.error .outOfHostMemory)) ∧
    ∀ (allocator : Allocator) (element : Layout) (length : UInt64) (scope : Scope) (k : Nat),
      0 < element.size.toNat → element.alignment.toNat = 2 ^ k → allocator.ExactArray element length scope := by
  refine ⟨fun submissions h => ?_, Submission.blockLayout?_exact, fun bridge queue fence allocator submissions h hlarge => ?_,
    fun allocator element length scope k hs ha => allocator.exactArray length scope hs ha⟩
  · rw [Submission.sum_commandBuffers]
    exact ⟨Submission.toNat_totalCommandBuffers h, Submission.length_entries_lt h⟩
  · rw [Submission.sum_commandBuffers] at hlarge
    exact Submission.tells_submitTo_of_large bridge queue fence allocator h hlarge

/-- Submissions of the same number of command buffers each. -/
def Sample.alike (count each : Nat) : List (Submission (Option Handle)) := .replicate count ⟨none, .replicate each none, [], []⟩

theorem Sample.counted_alike {count each : Nat} (hc : count < 2 ^ 32) (he : each < 2 ^ 32) :
    Submission.Counted (Sample.alike count each) := by
  constructor
  · rw [alike, List.length_replicate]
    exact hc
  · intro submission hm
    obtain ⟨-, rfl⟩ := List.mem_replicate.1 hm
    rw [List.length_replicate]
    exact he

theorem Sample.length_alike (count each : Nat) : (Sample.alike count each).length = count := by
  rw [alike, List.length_replicate]

theorem Sample.sum_alike (count each : Nat) :
    ((Sample.alike count each).map (·.commandBuffers.length)).sum = count * each := by
  rw [alike, List.map_replicate, List.sum_replicate_nat, List.length_replicate]

theorem sizes_exact_sample :
    (∃ block offset, Submission.blockLayout? 3 5 = some (block, offset) ∧ block.size.toNat = 256 ∧ block.alignment = 8 ∧
      offset.toNat = 216) ∧
    Submission.blockLayout? 0 0x1000000000000000 = none ∧
    (Submission.totalCommandBuffers (Sample.alike (2 ^ 29) (2 ^ 32 - 1))).toNat = 2 ^ 29 * (2 ^ 32 - 1) ∧
    (∀ bridge, (Submission.submitTo 7 .system (Sample.alike (2 ^ 29) (2 ^ 32 - 1)) 0).Tells bridge []
      (.error .outOfHostMemory)) ∧
    Allocator.system.ExactArray ⟨24, 8⟩ 3 .object := by
  obtain ⟨hcounts, hblocks, hlarge, harrays⟩ := sizes_exact
  have hcounted : Submission.Counted (Sample.alike (2 ^ 29) (2 ^ 32 - 1)) :=
    Sample.counted_alike (by decide) (by decide)
  refine ⟨(hblocks 3 5).1 (by decide), (hblocks 0 0x1000000000000000).2 (by decide), ?_, fun bridge => ?_, ?_⟩
  · rw [(hcounts _ hcounted).1, Sample.sum_alike]
  · apply hlarge bridge 7 0 .system _ hcounted
    rw [Sample.length_alike, Sample.sum_alike]
    omega
  · exact harrays .system ⟨24, 8⟩ 3 .object 3 (by decide) (by decide)

end VulkanBridge
