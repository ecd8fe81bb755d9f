/-!
# Look-up in a sorted table

`binarySearch` halves a window of an array that is sorted with respect to the probe `compareTo`: the
probe says whether an entry lies before (`lt`), at (`eq`) or after (`gt`) the wanted place.
-/

namespace VulkanBridge.SortedTable

variable {α : Type}

/-- Search in the window from `low` up to, not including, `high`. -/
def searchWindow (table : Array α) (compareTo : α → Ordering) (low high : Nat) (bounded : high ≤ table.size) :
    Option α :=
  if open' : low < high then
    let middle := low + (high - low) / 2
    have inside : middle < table.size := by omega
    match compareTo table[middle] with
    | .eq => some table[middle]
    | .lt => searchWindow table compareTo (middle + 1) high bounded
    | .gt => searchWindow table compareTo low middle (Nat.le_of_lt inside)
  else none
termination_by high - low

/-- An entry at which the probe answers `eq`, if the table has one. -/
def binarySearch (table : Array α) (compareTo : α → Ordering) : Option α :=
  searchWindow table compareTo 0 table.size (Nat.le_refl _)

end VulkanBridge.SortedTable
