import VulkanBridge.EntryPoint
/-!
# Names resolve exactly

The binary search of a sorted table finds what a scan from end to end finds (`SortedTable.binarySearch_eq_find?`). The
window always holds the wanted entry, if there is one: all that lies before it is too small and all behind it too large.

Both tables of entry points are sorted by the bytes of their names, and no name is in both. So a name resolves to the
function that stands under it, and to nothing if none does (`EntryPoint.resolution_exact`).
-/

namespace VulkanBridge

namespace SortedTable

variable {α : Type} {table : Array α} {compareTo : α → Ordering} {entry : α} {low high : Nat}

/-- Of any two entries in order, the first lies before the wanted place or the second behind it. -/
def Ordered (table : Array α) (compareTo : α → Ordering) : Prop :=
  ∀ i j, (hij : i < j) → (hj : j < table.size) → compareTo table[i] = .lt ∨ compareTo table[j] = .gt

/-- All places before the window lie before the wanted one, and all behind the window lie behind it. -/
structure Window (table : Array α) (compareTo : α → Ordering) (low high : Nat) : Prop where
  before : ∀ i, (hi : i < table.size) → i < low → compareTo table[i] = .lt
  behind : ∀ i, (hi : i < table.size) → high ≤ i → compareTo table[i] = .gt

/-- An entry that is too small has only such entries before it. -/
theorem Window.of_lt {middle : Nat} {inside : middle < table.size} (ho : Ordered table compareTo)
    (hw : Window table compareTo low high) (h : compareTo table[middle] = .lt) :
    Window table compareTo (middle + 1) high := by
  refine ⟨fun i hi hlt => ?_, hw.behind⟩
  rcases Nat.lt_or_eq_of_le (Nat.le_of_lt_succ hlt) with hlt | rfl
  · rcases ho i middle hlt inside with hbefore | hbehind
    · exact hbefore
    · rw [h] at hbehind
      cases hbehind
  · exact h

/-- An entry that is too large has only such entries behind it. -/
theorem Window.of_gt {middle : Nat} {inside : middle < table.size} (ho : Ordered table compareTo)
    (hw : Window table compareTo low high) (h : compareTo table[middle] = .gt) :
    Window table compareTo low middle := by
  refine ⟨hw.before, fun i hi hle => ?_⟩
  rcases Nat.lt_or_eq_of_le hle with hlt | rfl
  · rcases ho middle i hlt hi with hbefore | hbehind
    · rw [h] at hbefore
      cases hbefore
    · exact hbehind
  · exact h

/-- What the search finds is an entry at the wanted place. -/
theorem mem_of_searchWindow {bounded : high ≤ table.size} (h : searchWindow table compareTo low high bounded = some entry) :
    entry ∈ table ∧ compareTo entry = .eq := by
  fun_induction searchWindow table compareTo low high bounded with
  | case1 low high bounded hopen middle inside heq =>
    obtain rfl := Option.some.inj h
    exact ⟨Array.getElem_mem inside, heq⟩
  | case2 low high bounded hopen middle inside hlt ih => exact ih h
  | case3 low high bounded hopen middle inside hgt ih => exact ih h
  | case4 => cases h

/-- An entry at the wanted place lies in every window, up to the one that it is the middle of. -/
theorem searchWindow_isSome {bounded : high ≤ table.size} (ho : Ordered table compareTo)
    (hw : Window table compareTo low high) (hm : entry ∈ table) (he : compareTo entry = .eq) :
    (searchWindow table compareTo low high bounded).isSome := by
  fun_induction searchWindow table compareTo low high bounded with
  | case1 => rfl
  | case2 low high bounded hopen middle inside hlt ih => exact ih (hw.of_lt ho hlt)
  | case3 low high bounded hopen middle inside hgt ih => exact ih (hw.of_gt ho hgt)
  | case4 low high bounded hclosed =>
    obtain ⟨i, hi, rfl⟩ := Array.getElem_of_mem hm
    rcases Nat.lt_or_ge i low with hlow | hlow
    · rw [hw.before i hi hlow] at he
      cases he
    · rw [hw.behind i hi (by omega)] at he
      cases he

/-- Only one entry is at the wanted place. -/
theorem Ordered.unique {other : α} (ho : Ordered table compareTo) (hm : entry ∈ table) (he : compareTo entry = .eq)
    (hm' : other ∈ table) (he' : compareTo other = .eq) : entry = other := by
  obtain ⟨i, hi, rfl⟩ := Array.getElem_of_mem hm
  obtain ⟨j, hj, rfl⟩ := Array.getElem_of_mem hm'
  rcases Nat.lt_trichotomy i j with hlt | rfl | hlt
  · rcases ho i j hlt hj with h | h
    · rw [h] at he
      cases he
    · rw [h] at he'
      cases he'
  · rfl
  · rcases ho j i hlt hi with h | h
    · rw [h] at he'
      cases he'
    · rw [h] at he
      cases he

theorem binarySearch_eq_some_iff (ho : Ordered table compareTo) :
    binarySearch table compareTo = some entry ↔ entry ∈ table ∧ compareTo entry = .eq := by
  constructor
  · exact mem_of_searchWindow
  · rintro ⟨hm, he⟩
    have hall : Window table compareTo 0 table.size :=
      ⟨fun i _ hlt => absurd hlt (Nat.not_lt_zero i), fun i hi hle => absurd hi (Nat.not_lt.2 hle)⟩
    have hsome : (binarySearch table compareTo).isSome := searchWindow_isSome ho hall hm he
    obtain ⟨found, hfound⟩ := Option.isSome_iff_exists.1 hsome
    obtain ⟨hm', he'⟩ := mem_of_searchWindow hfound
    obtain rfl := ho.unique hm' he' hm he
    exact hfound

/-- In a sorted table the binary search finds what a linear scan finds. -/
theorem binarySearch_eq_find? (ho : Ordered table compareTo) :
    binarySearch table compareTo = table.toList.find? fun entry => compareTo entry = .eq := by
  cases hscan : table.toList.find? fun entry => compareTo entry = .eq with
  | some entry =>
    rw [binarySearch_eq_some_iff ho]
    exact ⟨Array.mem_toList_iff.1 (List.mem_of_find?_eq_some hscan), by simpa using List.find?_some hscan⟩
  | none =>
    rw [Option.eq_none_iff_forall_ne_some]
    intro entry h
    obtain ⟨hm, he⟩ := (binarySearch_eq_some_iff ho).1 h
    simpa [he] using List.find?_eq_none.1 hscan entry (Array.mem_toList_iff.2 hm)

end SortedTable

namespace EntryPoint

variable {table : Array EntryPoint} {name memory : List UInt8} {function : ExportedFunction}

/-! ## Byte order -/

/-- Names are compared in byte order. -/
theorem compare_eq_lt_iff (name other : List UInt8) : compare name other = .lt ↔ name < other := by
  show List.compareLex compare name other = .lt ↔ name < other
  induction name generalizing other with
  | nil =>
    cases other with
    | nil => simp [List.compareLex_nil_nil]
    | cons byte rest => simp [List.compareLex_nil_cons]
  | cons byte rest ih =>
    cases other with
    | nil => simp [List.compareLex_cons_nil]
    | cons byte' rest' =>
      rw [List.compareLex_cons_cons, List.cons_lt_cons_iff, Ordering.then_eq_lt, Std.compare_eq_lt, Std.compare_eq_iff_eq]
      exact or_congr_right (and_congr_right fun _ => ih rest')

/-- The names of the table strictly increase in byte order. -/
def Sorted (table : Array EntryPoint) : Prop := table.toList.Pairwise fun entry next => entry.key < next.key

instance : Decidable (Sorted table) := inferInstanceAs (Decidable (List.Pairwise _ _))

/-- A table sorted by name is ordered around every name. -/
theorem Sorted.ordered (h : Sorted table) (name : List UInt8) :
    SortedTable.Ordered table fun entry => compare entry.key name := by
  intro i j hij hj
  have hlt : compare table[i].key table[j].key = .lt :=
    (compare_eq_lt_iff _ _).2 (List.pairwise_iff_getElem.1 h i j (Nat.lt_trans hij hj) hj hij)
  cases hi : compare table[i].key name with
  | lt => exact .inl hi
  | eq =>
    rw [Std.compare_eq_iff_eq.1 hi] at hlt
    exact .inr (Std.OrientedCmp.gt_iff_lt.2 hlt)
  | gt => exact .inr (Std.OrientedCmp.gt_iff_lt.2 (Std.TransCmp.lt_trans (Std.OrientedCmp.gt_iff_lt.1 hi) hlt))

/-- The search of a sorted table is a scan for the name. -/
theorem Sorted.find_eq_find? (h : Sorted table) (name : List UInt8) :
    find table name = table.toList.find? fun entry => entry.key = name := by
  rw [find, SortedTable.binarySearch_eq_find? (h.ordered name)]
  simp only [Std.compare_eq_iff_eq]

theorem Sorted.find_eq_some_iff {entry : EntryPoint} (h : Sorted table) :
    find table name = some entry ↔ entry ∈ table ∧ entry.key = name := by
  rw [find, SortedTable.binarySearch_eq_some_iff (h.ordered name), Std.compare_eq_iff_eq]

/-! ## The two tables -/

theorem sorted_instanceTable : Sorted instanceTable := by decide +kernel

theorem sorted_deviceTable : Sorted deviceTable := by decide +kernel

/-- No name is in both tables. -/
theorem tables_disjoint : ∀ entry ∈ instanceTable, ∀ other ∈ deviceTable, entry.key ≠ other.key := by decide +kernel

/-- What is found at instance scope stands in one of the tables. -/
theorem lookupInstance_eq_some_iff : lookupInstance name = some function ↔
    ∃ entry, (entry ∈ instanceTable ∨ entry ∈ deviceTable) ∧ entry.key = name ∧ entry.function = function := by
  simp only [lookupInstance, Option.map_eq_some_iff, Option.or_eq_some_iff, sorted_instanceTable.find_eq_some_iff,
    sorted_deviceTable.find_eq_some_iff]
  constructor
  · rintro ⟨entry, ⟨hm, hk⟩ | ⟨-, hm, hk⟩, hf⟩
    · exact ⟨entry, .inl hm, hk, hf⟩
    · exact ⟨entry, .inr hm, hk, hf⟩
  · rintro ⟨entry, hm | hm, hk, hf⟩
    · exact ⟨entry, .inl ⟨hm, hk⟩, hf⟩
    · have hnone : find instanceTable name = none := by
        rw [Option.eq_none_iff_forall_ne_some]
        intro other hother
        obtain ⟨hm', hk'⟩ := sorted_instanceTable.find_eq_some_iff.1 hother
        exact tables_disjoint other hm' entry hm (hk'.trans hk.symm)
      exact ⟨entry, .inr ⟨hnone, hm, hk⟩, hf⟩

theorem lookupDevice_eq_some_iff : lookupDevice name = some function ↔
    ∃ entry ∈ deviceTable, entry.key = name ∧ entry.function = function := by
  simp only [lookupDevice, Option.map_eq_some_iff, sorted_deviceTable.find_eq_some_iff, and_assoc]

/-! ## Names in memory -/

/-- The bytes of the name at which memory begins. -/
def nameIn (memory : List UInt8) : List UInt8 := memory.takeWhile (· ≠ 0)

/-- The name of an entry is text. -/
theorem validUTF8_key (entry : EntryPoint) : ByteArray.validateUTF8 ⟨entry.key.toArray⟩ :=
  ByteArray.validateUTF8_eq_true_iff.2 entry.name.isValidUTF8

theorem readName_eq_none (h : ¬ByteArray.validateUTF8 ⟨(nameIn memory).toArray⟩) : readName memory = none := if_neg h

/-- A look-up that only knows names of entries does not notice that other names may be refused. -/
theorem bind_readName {lookup : List UInt8 → Option ExportedFunction}
    (h : ∀ name function, lookup name = some function → ∃ entry : EntryPoint, entry.key = name) :
    (readName memory).bind lookup = lookup (nameIn memory) := by
  by_cases hv : ByteArray.validateUTF8 ⟨(nameIn memory).toArray⟩
  · rw [show readName memory = some (nameIn memory) from if_pos hv, Option.bind_some]
  · rw [readName_eq_none hv, Option.bind_none, eq_comm, Option.eq_none_iff_forall_ne_some]
    intro function hf
    obtain ⟨entry, hk⟩ := h _ function hf
    apply hv
    rw [← hk]
    exact entry.validUTF8_key

theorem resolveInstance_eq (memory : List UInt8) : resolveInstance (some memory) = lookupInstance (nameIn memory) := by
  apply bind_readName
  intro name function hf
  obtain ⟨entry, -, hk, -⟩ := lookupInstance_eq_some_iff.1 hf
  exact ⟨entry, hk⟩

theorem resolveDevice_eq (memory : List UInt8) : resolveDevice (some memory) = lookupDevice (nameIn memory) := by
  apply bind_readName
  intro name function hf
  obtain ⟨entry, -, hk, -⟩ := lookupDevice_eq_some_iff.1 hf
  exact ⟨entry, hk⟩

/-- At each scope a name resolves to the function of the entry under it, and to nothing if there is none, as for names that
are not text. The search agrees with a scan of any sorted table, and both tables are sorted and have no name in common; so the
scopes agree on the names of devices, and the names of instances are not seen at device scope. -/
theorem resolution_exact :
    (∀ memory function, resolveInstance (some memory) = some function ↔
      ∃ entry, (entry ∈ instanceTable ∨ entry ∈ deviceTable) ∧ entry.key = nameIn memory ∧ entry.function = function) ∧
    (∀ memory function, resolveDevice (some memory) = some function ↔
      ∃ entry ∈ deviceTable, entry.key = nameIn memory ∧ entry.function = function) ∧
    (∀ memory, ¬ByteArray.validateUTF8 ⟨(nameIn memory).toArray⟩ →
      resolveInstance (some memory) = none ∧ resolveDevice (some memory) = none) ∧
    (∀ table, Sorted table → ∀ name, find table name = table.toList.find? fun entry => entry.key = name) ∧
    (Sorted instanceTable ∧ Sorted deviceTable ∧ ∀ entry ∈ instanceTable, ∀ other ∈ deviceTable, entry.key ≠ other.key) ∧
    (∀ memory function, resolveDevice (some memory) = some function → resolveInstance (some memory) = some function) ∧
    ∀ entry ∈ instanceTable, ∀ memory, nameIn memory = entry.key → resolveDevice (some memory) = none := by
  have hinstance (memory : List UInt8) (function : ExportedFunction) : resolveInstance (some memory) = some function ↔
      ∃ entry, (entry ∈ instanceTable ∨ entry ∈ deviceTable) ∧ entry.key = nameIn memory ∧ entry.function = function := by
    rw [resolveInstance_eq, lookupInstance_eq_some_iff]
  have hdevice (memory : List UInt8) (function : ExportedFunction) : resolveDevice (some memory) = some function ↔
      ∃ entry ∈ deviceTable, entry.key = nameIn memory ∧ entry.function = function := by
    rw [resolveDevice_eq, lookupDevice_eq_some_iff]
  refine ⟨hinstance, hdevice, ?text, fun table h name => h.find_eq_find? name,
    ⟨sorted_instanceTable, sorted_deviceTable, tables_disjoint⟩, ?agree, ?hidden⟩
  case text =>
    intro memory h
    rw [resolveInstance, resolveDevice, Option.bind_some, readName_eq_none h]
    exact ⟨rfl, rfl⟩
  case agree =>
    intro memory function h
    obtain ⟨entry, hm, hk, hf⟩ := (hdevice memory function).1 h
    exact (hinstance memory function).2 ⟨entry, .inr hm, hk, hf⟩
  case hidden =>
    intro entry hm memory hk
    rw [Option.eq_none_iff_forall_ne_some]
    intro function h
    obtain ⟨other, hm', hk', -⟩ := (hdevice memory function).1 h
    exact tables_disjoint entry hm other hm' (hk.symm.trans hk'.symm)

theorem resolution_exact_sample :
    (resolveDevice (some (bytes "vkQueueSubmit" ++ [0, 33])) = some ⟨"vkQueueSubmit"⟩ ∧
      resolveInstance (some (bytes "vkQueueSubmit" ++ [0, 33])) = some ⟨"vkQueueSubmit"⟩) ∧
    resolveInstance (some (bytes "vkGetInstanceProcAddr" ++ [0])) = some ⟨"vk_icdGetInstanceProcAddr"⟩ ∧
    resolveDevice (some (bytes "vkGetInstanceProcAddr" ++ [0])) = none ∧
    (resolveInstance (some [118, 107, 255, 0]) = none ∧ resolveDevice (some [118, 107, 255, 0]) = none) ∧
    find instanceTable (bytes "vkQueueSubmit") = none := by
  obtain ⟨hinstance, hdevice, htext, hscan, ⟨hsorted, -⟩, hagree, hhidden⟩ := resolution_exact
  have hsubmit : resolveDevice (some (bytes "vkQueueSubmit" ++ [0, 33])) = some ⟨"vkQueueSubmit"⟩ :=
    (hdevice _ _).2 ⟨named "vkQueueSubmit", by decide +kernel, by decide +kernel, rfl⟩
  refine ⟨⟨hsubmit, hagree _ _ hsubmit⟩, ?_, ?_, htext _ (by decide +kernel), ?_⟩
  · exact (hinstance _ _).2 ⟨⟨"vkGetInstanceProcAddr", ⟨"vk_icdGetInstanceProcAddr"⟩⟩, by decide +kernel, by decide +kernel, rfl⟩
  · exact hhidden ⟨"vkGetInstanceProcAddr", ⟨"vk_icdGetInstanceProcAddr"⟩⟩ (by decide +kernel) _ (by decide +kernel)
  · rw [hscan instanceTable hsorted]
    decide +kernel

end EntryPoint

end VulkanBridge
