import VulkanBridge.CommandBuffer.Recording
/-!
# Room that is used again

The entries of a batch are noted in room in which the batch before was noted. Only the first places are read, as many as
the batch has entries, and all of these have been written anew. So no batch sees what an earlier one left there, and all
comes to the same as if each batch had room of its own (`CommandBuffer.freeBatches_eq`,
`CommandBuffer.executeBatches_eq`).
-/

namespace VulkanBridge

variable {α β γ σ τ : Type}

/-! ## Writing one place after another -/

/-- The room once values are written from a place on. -/
def writeAll (write : σ → Nat → β → σ) (room : σ) (place : Nat) : List β → σ
  | [] => room
  | value :: rest => writeAll write (write room place value) (place + 1) rest

/-- In a part of the room stands that part of the values. -/
theorem writeAll_part {write : σ → Nat → β → σ} {writePart : τ → Nat → γ → τ} {part : σ → τ} {value : β → γ}
    (h : ∀ room place item, part (write room place item) = writePart (part room) place (value item))
    (room : σ) (place : Nat) (items : List β) :
    part (writeAll write room place items) = writeAll writePart (part room) place (items.map value) := by
  induction items generalizing room place with
  | nil => rfl
  | cons item rest ih => rw [writeAll, ih, h, List.map_cons, writeAll]

section Places

variable {places : Array α} {place : Nat} {values : List α}

@[simp] theorem size_writeAll : (writeAll Array.setIfInBounds places place values).size = places.size := by
  induction values generalizing places place with
  | nil => rfl
  | cons value rest ih => rw [writeAll, ih, Array.size_setIfInBounds]

/-- Nothing is written before the first place. -/
theorem getElem?_writeAll_of_lt {i : Nat} (hi : i < place) :
    (writeAll Array.setIfInBounds places place values)[i]? = places[i]? := by
  induction values generalizing places place with
  | nil => rfl
  | cons value rest ih => rw [writeAll, ih (Nat.lt_succ_of_lt hi), Array.getElem?_setIfInBounds_ne (Nat.ne_of_gt hi)]

/-- From the first place on the values stand one after another. -/
theorem getElem?_writeAll_add {i : Nat} (hi : i < values.length) (hfits : place + values.length ≤ places.size) :
    (writeAll Array.setIfInBounds places place values)[place + i]? = values[i]? := by
  induction values generalizing places place i with
  | nil => cases hi
  | cons value rest ih =>
    rw [List.length_cons] at hi hfits
    rw [writeAll]
    cases i with
    | zero =>
      rw [Nat.add_zero place, getElem?_writeAll_of_lt (Nat.lt_add_one place), Array.getElem?_setIfInBounds, if_pos rfl,
        if_pos (by omega), List.getElem?_cons_zero]
    | succ i =>
      rw [← Nat.add_assoc, Nat.add_right_comm, ih (by omega) (by rw [Array.size_setIfInBounds]; omega),
        List.getElem?_cons_succ]

/-- What was written is read. -/
theorem extract_writeAll (hfits : place + values.length ≤ places.size) :
    ((writeAll Array.setIfInBounds places place values).extract place (place + values.length)).toList = values := by
  refine List.ext_getElem? fun i => ?_
  rw [Array.getElem?_toList, Array.getElem?_extract, size_writeAll, Nat.min_eq_left hfits, Nat.add_sub_cancel_left]
  split
  case isTrue hi => exact getElem?_writeAll_add hi hfits
  case isFalse hi => rw [List.getElem?_eq_none (Nat.le_of_not_lt hi)]

end Places

/-- Where a part of the room is an array of places, those that were written are read, and none of those behind them. -/
theorem extract_writeAll_part {size : Nat} {write : σ → Nat → β → σ} {part : σ → Vector γ size} {value : β → γ} {room : σ}
    {items : List β} (h : ∀ room place item, part (write room place item) = (part room).setIfInBounds place (value item))
    (hfits : items.length ≤ size) :
    ((part (writeAll write room 0 items)).extract 0 items.length).toList = items.map value := by
  have hpart : (part (writeAll write room 0 items)).toArray = writeAll Array.setIfInBounds (part room).toArray 0 (items.map value) :=
    @writeAll_part β γ σ _ write Array.setIfInBounds (fun room => (part room).toArray) value
      (fun room place item => congrArg Vector.toArray (h room place item)) room 0 items
  have hread := @extract_writeAll γ (part room).toArray 0 (items.map value) (by
    rw [Nat.zero_add, List.length_map, Vector.size_toArray]
    exact hfits)
  rwa [Nat.zero_add, List.length_map, ← hpart, ← Vector.toArray_extract] at hread

theorem extract_writeAll_vector {size : Nat} {room : Vector α size} {values : List α} (hfits : values.length ≤ size) :
    ((writeAll Vector.setIfInBounds room 0 values).extract 0 values.length).toList = values := by
  have hread := @extract_writeAll_part α α _ size Vector.setIfInBounds id id room values (fun _ _ _ => rfl) hfits
  rwa [List.map_id] at hread

/-! ## Noting a batch -/

section Noting

variable {m : Type → Type} [Monad m] [LawfulMonad m] {look : α → m β} {items : List α}

/-- Looking at items comes to as many values. -/
theorem bind_mapM_congr {next other : List β → m γ}
    (h : ∀ values, values.length = items.length → next values = other values) :
    items.mapM look >>= next = items.mapM look >>= other := by
  induction items generalizing next other with
  | nil => rw [List.mapM_nil, pure_bind, pure_bind, h [] rfl]
  | cons item rest ih =>
    simp only [List.mapM_cons, bind_assoc, pure_bind]
    exact bind_congr fun value => ih fun values hl => h (value :: values) (congrArg (· + 1) hl)

/-- To note items is to look at all of them, and to write down what they come to. -/
theorem noteAll_eq (write : σ → Nat → β → σ) (room : σ) (place : Nat) :
    noteAll look write room place items = writeAll write room place <$> items.mapM look := by
  induction items generalizing room place with
  | nil => rw [List.mapM_nil, map_pure]; rfl
  | cons item rest ih =>
    rw [noteAll, List.mapM_cons, map_bind]
    refine bind_congr fun value => ?_
    rw [ih, bind_pure_comp, Functor.map_map]
    rfl

/-- What follows the noting of items can be told from what they come to. -/
theorem noteAll_bind_eq {write : σ → Nat → β → σ} {room : σ} {place : Nat} {next : σ → m γ} {other : List β → m γ}
    (h : ∀ values, values.length = items.length → next (writeAll write room place values) = other values) :
    noteAll look write room place items >>= next = items.mapM look >>= other := by
  rw [noteAll_eq, bind_map_left]
  exact bind_mapM_congr h

end Noting

namespace CommandBuffer

/-! ## Executing -/

/-- Have a native command buffer execute batches of others, each with room of its own. -/
def executeEach (native : NativeHandle) : List (List (Option Handle)) → Action Unit
  | [] => pure ()
  | batch :: rest => do
    Native.execute native (← batch.mapM nativeOf)
    executeEach native rest

theorem executeBatches_eq {batches : List (List (Option Handle))} (h : ∀ batch ∈ batches, batch.length ≤ Platform.batchSize)
    (native : NativeHandle) (natives : Vector NativeHandle Platform.batchSize) :
    executeBatches native natives batches = executeEach native batches := by
  induction batches generalizing natives with
  | nil => rfl
  | cons batch rest ih =>
    obtain ⟨hfits, hrest⟩ := List.forall_mem_cons.1 h
    rw [executeBatches, executeEach]
    refine noteAll_bind_eq fun values hl => ?_
    rw [ih hrest, ← hl, extract_writeAll_vector (hl ▸ hfits)]

/-! ## Freeing -/

/-- Free the command buffers of one batch, with room of its own. -/
def freeAlone (device : Device) (pool : NativeHandle) (batch : List (Option Handle)) : Action Device := do
  let entries ← batch.mapM resolveEntry
  Native.freeCommandBuffers device.native pool (entries.map (·.elim 0 (·.2)))
  unwrapAll device pool (entries.filterMap (·.map (·.1)))

/-- Free the command buffers of batches, each with room of its own. -/
def freeEach (device : Device) (pool : NativeHandle) : List (List (Option Handle)) → Action Device
  | [] => pure device
  | batch :: rest => do freeEach (← freeAlone device pool batch) pool rest

namespace Scratch

variable (scratch : Scratch) {entries : List (Option (Address × NativeHandle))}

/-- The native driver reads what the entries of the batch stand for. -/
theorem natives_writeAll (hfits : entries.length ≤ Platform.batchSize) :
    ((writeAll write scratch 0 entries).natives.extract 0 entries.length).toList = entries.map (·.elim 0 (·.2)) :=
  extract_writeAll_part (fun _ _ _ => rfl) hfits

/-- The records taken are those of the batch. -/
theorem takeRecords_writeAll (hfits : entries.length ≤ Platform.batchSize) :
    ((writeAll write scratch 0 entries).takeRecords entries.length).1 = entries.filterMap (·.map (·.1)) := by
  have hread : ((writeAll write scratch 0 entries).records.extract 0 entries.length).toList = entries.map (·.map (·.1)) :=
    extract_writeAll_part (fun _ _ _ => rfl) hfits
  rw [takeRecords, hread, List.filterMap_map]
  rfl

end Scratch

theorem freeBatches_eq {batches : List (List (Option Handle))} (h : ∀ batch ∈ batches, batch.length ≤ Platform.batchSize)
    (device : Device) (pool : NativeHandle) (scratch : Scratch) :
    freeBatches device pool scratch batches = freeEach device pool batches := by
  induction batches generalizing device scratch with
  | nil => rfl
  | cons batch rest ih =>
    obtain ⟨hfits, hrest⟩ := List.forall_mem_cons.1 h
    rw [freeBatches, freeEach, freeBatch, freeAlone, bind_assoc, bind_assoc]
    refine noteAll_bind_eq fun values hl => ?_
    rw [← hl] at hfits
    simp only [← hl, scratch.takeRecords_writeAll hfits, bind_assoc, pure_bind, ih hrest]
    rw [← hl, scratch.natives_writeAll hfits]

end CommandBuffer

end VulkanBridge
