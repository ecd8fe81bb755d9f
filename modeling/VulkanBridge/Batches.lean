/-!
# Batches

Lists of command buffers reach the native driver a fixed number at a time. Cutting a list into batches loses
nothing and moves nothing (`flatten_batches`), each batch holds what stands at its place
(`getElem_batches`), and so all are full but perhaps the last (`batched_batches`).

What the items of a batch come to is noted in room for one batch (`noteAll`), which is used again for the next.
-/

namespace VulkanBridge

variable {α β : Type}

/-- The first `count` batches of a list. -/
def takeBatches (size : Nat) : (count : Nat) → List α → List (List α)
  | 0, _ => []
  | count + 1, items => items.take size :: takeBatches size count (items.drop size)

/-- A list cut into batches, all full but perhaps the last. -/
def batches (size : Nat) (items : List α) : List (List α) :=
  takeBatches size ((items.length + (size - 1)) / size) items

/-- Look at items one after another, and write down what each comes to, from a place on. What stands at other places
stays there. -/
def noteAll {m : Type → Type} [Monad m] {σ : Type} (look : α → m β) (write : σ → Nat → β → σ) (room : σ) (place : Nat) :
    List α → m σ
  | [] => pure room
  | item :: rest => do noteAll look write (write room place (← look item)) (place + 1) rest

@[simp] theorem length_takeBatches (size count : Nat) (items : List α) :
    (takeBatches size count items).length = count := by
  induction count generalizing items with
  | zero => rfl
  | succ count ih => simp [takeBatches, ih]

theorem getElem_takeBatches (size count : Nat) (items : List α) (i : Nat)
    (h : i < (takeBatches size count items).length) :
    (takeBatches size count items)[i] = (items.drop (i * size)).take size := by
  induction count generalizing items i with
  | zero => simp at h
  | succ count ih =>
    cases i with
    | zero => simp [takeBatches]
    | succ i =>
      have := ih (items.drop size) i (by simpa [takeBatches] using h)
      simp only [takeBatches, List.getElem_cons_succ, this, List.drop_drop, Nat.succ_mul, Nat.add_comm]

theorem flatten_takeBatches (size count : Nat) (items : List α) :
    (takeBatches size count items).flatten = items.take (count * size) := by
  induction count generalizing items with
  | zero => simp [takeBatches]
  | succ count ih => rw [takeBatches, List.flatten_cons, ih, Nat.succ_mul, Nat.add_comm, List.take_add]

theorem map_takeBatches (f : α → β) (size count : Nat) (items : List α) :
    takeBatches size count (items.map f) = (takeBatches size count items).map (·.map f) := by
  induction count generalizing items with
  | zero => rfl
  | succ count ih => simp [takeBatches, ← List.map_drop, ih]

/-- There are as many batches as are needed. -/
@[simp] theorem length_batches (size : Nat) (items : List α) :
    (batches size items).length = (items.length + (size - 1)) / size := length_takeBatches ..

/-- A batch holds what stands at its place. -/
theorem getElem_batches (size : Nat) (items : List α) (i : Nat) (h : i < (batches size items).length) :
    (batches size items)[i] = (items.drop (i * size)).take size := getElem_takeBatches ..

/-- Nothing is lost and nothing moves. -/
theorem flatten_batches {size : Nat} (h : 0 < size) (items : List α) : (batches size items).flatten = items := by
  rw [batches, flatten_takeBatches, List.take_of_length_le]
  have := Nat.div_add_mod (items.length + (size - 1)) size
  have := Nat.mod_lt (items.length + (size - 1)) h
  rw [Nat.mul_comm]
  omega

/-- These are the items in batches of a size: together they are the items in order, there are as few of them as can be,
and all are full but perhaps the last. -/
structure Batched (size : Nat) (items : List α) (batches : List (List α)) : Prop where
  whole : batches.flatten = items
  few : batches.length = (items.length + (size - 1)) / size
  full : ∀ batch ∈ batches.dropLast, batch.length = size
  small : ∀ batch ∈ batches, batch.length ≤ size

theorem batched_batches {size : Nat} (h : 0 < size) (items : List α) : Batched size items (batches size items) where
  whole := flatten_batches h items
  few := length_batches size items
  full batch hm := by
    obtain ⟨i, hi, rfl⟩ := List.mem_iff_getElem.1 hm
    rw [List.length_dropLast, length_batches] at hi
    rw [List.getElem_dropLast, getElem_batches, List.length_take, List.length_drop]
    -- There is a batch after this one, so the items do not end with it.
    have hnext : (i + 2) * size ≤ items.length + (size - 1) := (Nat.le_div_iff_mul_le h).1 (by omega)
    rw [Nat.add_mul] at hnext
    omega
  small batch hm := by
    obtain ⟨i, hi, rfl⟩ := List.mem_iff_getElem.1 hm
    rw [getElem_batches, List.length_take]
    exact Nat.min_le_left ..

theorem batches_map (f : α → β) (size : Nat) (items : List α) :
    batches size (items.map f) = (batches size items).map (·.map f) := by
  rw [batches, batches, List.length_map, map_takeBatches]

end VulkanBridge
