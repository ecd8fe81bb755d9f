import VulkanBridge.Object.Record
import Mathlib.Data.Multiset.MapFold
import Mathlib.Data.Multiset.Filter
/-!
# Contents of maps and sets

Blocks, registry entries and live command buffers are kept in ordered maps and sets. What is held is counted over
their contents as multisets, where the order no longer matters: one entry more comes with an insertion, one fewer
with an erasure, and replacing the value of a key is the erasure of one entry and the insertion of another.
-/

namespace VulkanBridge

section Map

variable {κ ν : Type} {cmp : κ → κ → Ordering} [Std.TransCmp cmp] [Std.LawfulEqCmp cmp]
variable {map : Std.ExtTreeMap κ ν cmp} {key : κ} {value : ν}

/-- The entries of a map. -/
def contents (map : Std.ExtTreeMap κ ν cmp) : Multiset (κ × ν) := map.toList

theorem mem_contents {entry : κ × ν} : entry ∈ contents map ↔ map[entry.1]? = some entry.2 :=
  Multiset.mem_coe.trans Std.ExtTreeMap.mem_toList_iff_getElem?_eq_some

theorem nodup_contents (map : Std.ExtTreeMap κ ν cmp) : (contents map).Nodup := by
  refine Multiset.coe_nodup.2 (Std.ExtTreeMap.distinct_keys_toList.imp ?_)
  rintro a _ hne rfl
  exact hne Std.ReflCmp.compare_self

@[simp] theorem contents_empty : contents (∅ : Std.ExtTreeMap κ ν cmp) = 0 := by
  refine Multiset.eq_zero_of_forall_notMem fun entry he => ?_
  rw [mem_contents, Std.ExtTreeMap.getElem?_empty] at he
  cases he

theorem getElem?_insert_self : (map.insert key value)[key]? = some value := by
  rw [Std.ExtTreeMap.getElem?_insert, if_pos Std.ReflCmp.compare_self]

theorem getElem?_insert_ne {other : κ} (h : other ≠ key) : (map.insert key value)[other]? = map[other]? := by
  rw [Std.ExtTreeMap.getElem?_insert, if_neg fun he => h (Std.LawfulEqCmp.eq_of_compare he).symm]

theorem getElem?_erase_self : (map.erase key)[key]? = none := by
  rw [Std.ExtTreeMap.getElem?_erase, if_pos Std.ReflCmp.compare_self]

theorem getElem?_erase_ne {other : κ} (h : other ≠ key) : (map.erase key)[other]? = map[other]? := by
  rw [Std.ExtTreeMap.getElem?_erase, if_neg fun he => h (Std.LawfulEqCmp.eq_of_compare he).symm]

theorem contents_insert (value : ν) (h : map[key]? = none) :
    contents (map.insert key value) = (key, value) ::ₘ contents map := by
  have absent : (key, value) ∉ contents map := by
    rw [mem_contents, h]
    exact nofun
  refine (Multiset.Nodup.ext (nodup_contents _) (Multiset.nodup_cons.2 ⟨absent, nodup_contents _⟩)).2 ?_
  rintro ⟨other, found⟩
  rw [Multiset.mem_cons, mem_contents, mem_contents]
  by_cases he : other = key
  · subst he
    simp [h, eq_comm]
  · simp [getElem?_insert_ne he, he]

/-- An entry and the others. -/
theorem contents_erase (h : map[key]? = some value) : contents map = (key, value) ::ₘ contents (map.erase key) := by
  rw [← contents_insert value getElem?_erase_self]
  congr 1
  refine Std.ExtTreeMap.ext_getElem? fun other => ?_
  by_cases he : other = key
  · rw [he, getElem?_insert_self, h]
  · rw [getElem?_insert_ne he, getElem?_erase_ne he]

theorem erase_insert (value : ν) : (map.insert key value).erase key = map.erase key := by
  refine Std.ExtTreeMap.ext_getElem? fun other => ?_
  by_cases he : other = key
  · rw [he, getElem?_erase_self, getElem?_erase_self]
  · rw [getElem?_erase_ne he, getElem?_erase_ne he, getElem?_insert_ne he]

/-- A value put in the place of another. -/
theorem contents_replace (value : ν) :
    contents (map.insert key value) = (key, value) ::ₘ contents (map.erase key) := by
  rw [contents_erase getElem?_insert_self, erase_insert]

end Map

section Set

variable {κ : Type} {cmp : κ → κ → Ordering} [Std.TransCmp cmp] [Std.LawfulEqCmp cmp]
variable {set : Std.ExtTreeSet κ cmp} {key : κ}

/-- The elements of a set. -/
def elements (set : Std.ExtTreeSet κ cmp) : Multiset κ := set.toList

theorem mem_elements : key ∈ elements set ↔ key ∈ set := Multiset.mem_coe.trans Std.ExtTreeSet.mem_toList

theorem nodup_elements (set : Std.ExtTreeSet κ cmp) : (elements set).Nodup := by
  refine Multiset.coe_nodup.2 (Std.ExtTreeSet.distinct_toList.imp ?_)
  rintro a _ hne rfl
  exact hne Std.ReflCmp.compare_self

@[simp] theorem elements_empty : elements (∅ : Std.ExtTreeSet κ cmp) = 0 := by
  refine Multiset.eq_zero_of_forall_notMem fun key he => ?_
  rw [mem_elements] at he
  exact Std.ExtTreeSet.not_mem_empty he

theorem mem_insert_iff {other : κ} : other ∈ set.insert key ↔ other = key ∨ other ∈ set := by
  rw [Std.ExtTreeSet.mem_insert, Std.LawfulEqCmp.compare_eq_iff_eq, eq_comm]

theorem mem_erase_iff {other : κ} : other ∈ set.erase key ↔ other ≠ key ∧ other ∈ set := by
  rw [Std.ExtTreeSet.mem_erase, Ne, Std.LawfulEqCmp.compare_eq_iff_eq, ← Ne, ne_comm]

theorem elements_insert (h : key ∉ set) : elements (set.insert key) = key ::ₘ elements set := by
  refine (Multiset.Nodup.ext (nodup_elements _)
    (Multiset.nodup_cons.2 ⟨fun hm => h (mem_elements.1 hm), nodup_elements _⟩)).2 fun other => ?_
  rw [Multiset.mem_cons, mem_elements, mem_elements, mem_insert_iff]

/-- An element and the others. -/
theorem elements_erase (h : key ∈ set) : elements set = key ::ₘ elements (set.erase key) := by
  have absent : key ∉ elements (set.erase key) := fun hm => (mem_erase_iff.1 (mem_elements.1 hm)).1 rfl
  refine (Multiset.Nodup.ext (nodup_elements _) (Multiset.nodup_cons.2 ⟨absent, nodup_elements _⟩)).2 fun other => ?_
  rw [Multiset.mem_cons, mem_elements, mem_elements, mem_erase_iff]
  by_cases he : other = key
  · simp [he, h]
  · simp [he]

end Set

end VulkanBridge
