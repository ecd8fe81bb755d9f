import VulkanBridge.Memory.Layout
import Mathlib.Algebra.Group.Nat.Defs
import Mathlib.Order.Nat
/-!
# Layouts that exist

Sizes are words, and an array or an extension is refused exactly where its size, as a number, is beyond the limit of its
alignment (`Layout.array?_eq`, `Layout.extend?_eq`). So no size ever wraps. Arrays of up to `2^32` of the driver's records
are never refused (`Layout.Small.array?`).
-/

namespace VulkanBridge

/-! ## Counts as words of 64 bits -/

theorem toUInt64_ne_zero {count : UInt32} (h : count ≠ 0) : count.toUInt64 ≠ 0 :=
  fun he => h (by simpa [← UInt32.toNat_inj, ← UInt64.toNat_inj] using he)

theorem toNat_toUInt64_lt (count : UInt32) : count.toUInt64.toNat < 2 ^ 32 := by
  rw [UInt32.toNat_toUInt64]
  exact count.toNat_lt

namespace Layout

/-- Measures that the process's allocator accepts. -/
def Sound (layout : Layout) : Prop := layout.size ≠ 0 ∧ ofSize? layout.size layout.alignment = some layout

instance (layout : Layout) : Decidable layout.Sound := inferInstanceAs (Decidable (_ ∧ _))

theorem eq_of_ofSize? {size alignment : UInt64} {layout : Layout} (h : ofSize? size alignment = some layout) :
    layout = ⟨size, alignment⟩ := by
  unfold ofSize? at h
  split at h
  · exact (Option.some.inj h).symm
  · cases h

/-- Measures that were accepted are accepted again. -/
theorem sound_of_ofSize? {size alignment : UInt64} {layout : Layout} (h : ofSize? size alignment = some layout)
    (hz : size ≠ 0) : layout.Sound := by
  obtain rfl := eq_of_ofSize? h
  exact ⟨hz, h⟩

/-- The measures of an array. -/
def array (element : Layout) (length : UInt64) : Layout := ⟨element.size * length, element.alignment⟩

theorem array_of_array? {element layout : Layout} {length : UInt64} (h : element.array? length = some layout) :
    layout = element.array length := by
  unfold array? at h
  split at h
  · cases h
  · exact (Option.some.inj h).symm

variable {element : Layout} {size alignment length : UInt64}

/-! ## Alignments -/

section Alignments

variable {k : Nat}

theorem lt_of_alignment (ha : alignment.toNat = 2 ^ k) : k < 64 :=
  (Nat.pow_lt_pow_iff_right (by decide : 1 < 2)).1 (ha ▸ alignment.toNat_lt)

theorem toNat_sub_one (ha : alignment.toNat = 2 ^ k) : (alignment - 1).toNat = 2 ^ k - 1 := by
  have hle : 1 ≤ alignment := by
    rw [UInt64.le_iff_toNat_le, ha]
    exact Nat.two_pow_pos k
  rw [UInt64.toNat_sub_of_le _ _ hle, ha]
  rfl

theorem isPowerOfTwo_of_toNat (ha : alignment.toNat = 2 ^ k) : isPowerOfTwo alignment := by
  have hand : alignment &&& (alignment - 1) = 0 := by
    rw [← UInt64.toNat_inj, UInt64.toNat_and, toNat_sub_one ha, ha, Nat.and_two_pow_sub_one_eq_mod, Nat.mod_self]
    rfl
  have hne : alignment ≠ 0 := by
    rintro rfl
    exact (Nat.two_pow_pos k).ne ha
  simp [isPowerOfTwo, hand, hne]

/-- The limit of an alignment does not wrap. -/
theorem toNat_limit (ha : alignment.toNat = 2 ^ k) : (limit alignment).toNat = 2 ^ 63 - alignment.toNat := by
  have hle : alignment ≤ 0x8000000000000000 := by
    rw [UInt64.le_iff_toNat_le, ha]
    exact Nat.pow_le_pow_right (by decide) (Nat.le_of_lt_succ (lt_of_alignment ha))
  rw [limit, UInt64.toNat_sub_of_le _ _ hle]
  rfl

end Alignments

/-- To fill the low bits of a multiple and then to clear them leaves the multiple. -/
theorem clear_fill_low_bits {k q : Nat} (hk : k < 64) (hq : q < 2 ^ (64 - k)) :
    (2 ^ k * q + (2 ^ k - 1)) &&& (2 ^ 64 - (2 ^ k - 1 + 1)) = 2 ^ k * q := by
  have hlow : 2 ^ k - 1 < 2 ^ k := Nat.sub_lt (Nat.two_pow_pos k) Nat.one_pos
  refine Nat.eq_of_testBit_eq fun i => ?_
  rw [Nat.testBit_and, Nat.testBit_two_pow_mul_add q hlow,
    Nat.testBit_two_pow_sub_succ (hlow.trans (Nat.pow_lt_pow_right (by decide) hk)), Nat.testBit_two_pow_sub_one,
    Nat.testBit_two_pow_mul]
  by_cases hi : i < k
  · simp [hi, Nat.not_le.2 hi]
  · by_cases h64 : i < 64
    · simp [hi, h64, Nat.le_of_not_lt hi]
    · have : q.testBit (i - k) = false :=
        Nat.testBit_lt_two_pow (hq.trans_le (Nat.pow_le_pow_right (by decide) (by omega)))
      simp [hi, this]

/-- A size that is a multiple of the alignment stays as it is. -/
theorem roundUp_of_dvd {k : Nat} (ha : alignment.toNat = 2 ^ k) (hd : 2 ^ k ∣ size.toNat) : roundUp size alignment = size := by
  obtain ⟨q, hq⟩ := hd
  have hpos := Nat.two_pow_pos k
  have hk := lt_of_alignment ha
  have hsplit : 2 ^ k * 2 ^ (64 - k) = 2 ^ 64 := by rw [← Nat.pow_add, Nat.add_sub_cancel' hk.le]
  have hmask := toNat_sub_one ha
  have hfactor : q < 2 ^ (64 - k) := by
    have := size.toNat_lt
    rw [hq, ← hsplit] at this
    exact Nat.lt_of_mul_lt_mul_left this
  have hsum : (size + (alignment - 1)).toNat = 2 ^ k * q + (2 ^ k - 1) := by
    have : 2 ^ k * (q + 1) ≤ 2 ^ k * 2 ^ (64 - k) := Nat.mul_le_mul_left _ hfactor
    rw [Nat.mul_succ] at this
    rw [UInt64.toNat_add, hmask, hq, Nat.mod_eq_of_lt (by omega)]
  have hclear : UInt64.size - 1 - (2 ^ k - 1) = 2 ^ 64 - (2 ^ k - 1 + 1) := by
    show 2 ^ 64 - 1 - (2 ^ k - 1) = _
    omega
  rw [roundUp, ← UInt64.toNat_inj, UInt64.toNat_and, UInt64.toNat_not, hsum, hmask, hq, hclear,
    clear_fill_low_bits hk hfactor]

/-! ## Arrays and extensions -/

/-- An array is refused only where it would be too large for any layout. -/
theorem array?_eq (hs : element.size ≠ 0) : element.array? length =
    if element.size.toNat * length.toNat ≤ (limit element.alignment).toNat then some (element.array length) else none := by
  have hpos : 0 < element.size.toNat := Nat.pos_of_ne_zero fun he => hs (UInt64.toNat_inj.1 he)
  have hlimit : limit element.alignment / element.size < length ↔
      ¬element.size.toNat * length.toNat ≤ (limit element.alignment).toNat := by
    rw [UInt64.lt_iff_toNat_lt, UInt64.toNat_div, Nat.div_lt_iff_lt_mul hpos, Nat.not_le, Nat.mul_comm]
  rw [array?]
  by_cases hfits : element.size.toNat * length.toNat ≤ (limit element.alignment).toNat
  · rw [if_neg fun h => hlimit.1 h.2 hfits, if_pos hfits, array]
  · rw [if_pos ⟨hs, hlimit.2 hfits⟩, if_neg hfits]

theorem toNat_size_array (h : element.size.toNat * length.toNat ≤ (limit element.alignment).toNat) :
    (element.array length).size.toNat = element.size.toNat * length.toNat := by
  rw [array, UInt64.toNat_mul, Nat.mod_eq_of_lt (h.trans_lt (limit _).toNat_lt)]

/-- An array that is not empty and does not pass the limit has measures that exist. -/
theorem array_sound {k : Nat} (hs : element.size ≠ 0) (hz : length ≠ 0) (ha : element.alignment.toNat = 2 ^ k)
    (hfits : element.size.toNat * length.toNat ≤ (limit element.alignment).toNat) : (element.array length).Sound := by
  have hsize := toNat_size_array hfits
  constructor
  · intro he
    rw [he, UInt64.toNat_zero, eq_comm, Nat.mul_eq_zero] at hsize
    rcases hsize with h | h
    · exact hs (UInt64.toNat_inj.1 h)
    · exact hz (UInt64.toNat_inj.1 h)
  · apply if_pos
    refine ⟨isPowerOfTwo_of_toNat ha, ?_⟩
    rw [UInt64.le_iff_toNat_le, hsize]
    exact hfits

/-- A layout of the same alignment fits directly behind one whose size is a multiple of it. -/
theorem extend?_eq {first second : Layout} {k : Nat} (hp : isPowerOfTwo first.alignment) (hk : first.alignment.toNat = 2 ^ k)
    (ha : second.alignment = first.alignment) (hd : 2 ^ k ∣ first.size.toNat) : first.extend? second =
      if first.size.toNat + second.size.toNat ≤ (limit first.alignment).toNat then
        some (⟨first.size + second.size, first.alignment⟩, first.size) else none := by
  have hsum : (first.size + second.size).toNat = (first.size.toNat + second.size.toNat) % 2 ^ 64 := UInt64.toNat_add _ _
  have hfirst := first.size.toNat_lt
  have hsecond := second.size.toNat_lt
  have hlimit := (limit first.alignment).toNat_lt
  simp only [extend?, ha, roundUp_of_dvd hk hd, ite_self, UInt64.lt_iff_toNat_lt, hsum]
  by_cases hfits : first.size.toNat + second.size.toNat ≤ (limit first.alignment).toNat
  · have hle : first.size + second.size ≤ limit first.alignment := by
      rw [UInt64.le_iff_toNat_le, hsum]
      omega
    rw [if_neg (by omega), if_pos hfits, ofSize?, if_pos ⟨hp, hle⟩, Option.map_some]
  · rw [if_neg hfits]
    split
    case isTrue => rfl
    case isFalse hkept =>
      have hlt : ¬first.size + second.size ≤ limit first.alignment := by
        rw [UInt64.le_iff_toNat_le, hsum]
        omega
      rw [ofSize?, if_neg fun h => hlt h.2, Option.map_none]

/-! ## Records of the driver -/

/-- A record of the driver: not empty, of moderate size, aligned to eight bytes. -/
structure Small (element : Layout) : Prop where
  positive : 0 < element.size.toNat
  moderate : element.size.toNat < 2 ^ 16
  alignment : element.alignment = 8

/-- No array of fewer than `2^32` records is too large. -/
theorem Small.fits (h : element.Small) (hl : length.toNat < 2 ^ 32) :
    element.size.toNat * length.toNat ≤ (limit element.alignment).toNat := by
  have : element.size.toNat * length.toNat < 2 ^ 16 * 2 ^ 32 := Nat.mul_lt_mul'' h.moderate hl
  have hlimit : (limit 8).toNat = 2 ^ 63 - 8 := by decide
  rw [h.alignment]
  omega

theorem Small.size_ne_zero (h : element.Small) : element.size ≠ 0 :=
  fun he => h.positive.ne' (by rw [he, UInt64.toNat_zero])

/-- No array of fewer than `2^32` records is refused. -/
theorem Small.array? (h : element.Small) (hl : length.toNat < 2 ^ 32) :
    element.array? length = some (element.array length) := by
  rw [array?_eq h.size_ne_zero, if_pos (h.fits hl)]

/-- An array of records that is not empty has measures that exist. -/
theorem Small.array_sound (h : element.Small) (hz : length ≠ 0) (hl : length.toNat < 2 ^ 32) :
    (element.array length).Sound := by
  have ha : element.alignment.toNat = 2 ^ 3 := by rw [h.alignment]; rfl
  exact Layout.array_sound h.size_ne_zero hz ha (h.fits hl)

theorem small_physicalDevice : physicalDevice.Small := ⟨by decide, by decide, rfl⟩

theorem small_queue : queue.Small := ⟨by decide, by decide, rfl⟩

theorem small_queueFamily : queueFamily.Small := ⟨by decide, by decide, rfl⟩

theorem small_nativeHandle : nativeHandle.Small := ⟨by decide, by decide, rfl⟩

end Layout

end VulkanBridge
