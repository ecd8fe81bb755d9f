import VulkanBridge.Proofs.Ownership
import VulkanBridge.Device.Queues
/-!
# Queues and their memory

The arrays of a device's families and queues are obtained together or not at all, and given back together.
-/

namespace VulkanBridge

namespace Queue

variable {device : Address} {native : NativeHandle} {family count : UInt32}

/-- One queue is asked for after another. -/
theorem length_of_mapM {indices : List Nat} {trace : Trace} {queues : List NativeHandle}
    (h : (indices.mapM fun index => Native.deviceQueue native family index.toUInt32).Runs trace queues) :
    queues.length = indices.length := by
  induction indices generalizing trace queues with
  | nil =>
    rw [List.mapM_nil] at h
    obtain ⟨-, rfl⟩ := h
    rfl
  | cons index rest ih =>
    rw [List.mapM_cons] at h
    simp only [Program.runs_bind_iff] at h
    obtain ⟨_, _, queue, rfl, -, _, _, others, rfl, hrest, -, rfl⟩ := h
    rw [List.length_cons, List.length_cons, ih hrest]

/-- Asking for queues has no effect. There are as many records as asked for, and they carry the tag and the device. -/
theorem runs_obtainAll {trace : Trace} {records : Array Queue} (h : (obtainAll device native family count).Runs trace records) :
    trace.Idle ∧ records.size = count.toNat ∧
      ∀ found ∈ records, found.header.tag = ObjectKind.queue.tag ∧ found.device = device := by
  unfold obtainAll at h
  rw [Program.runs_bind_iff] at h
  obtain ⟨asking, _, queues, rfl, ha, rfl, rfl⟩ := h
  refine ⟨?_, by simpa using length_of_mapM ha, ?_⟩
  · have idle (indices : List Nat) :
        (indices.mapM fun index => Native.deviceQueue native family index.toUInt32).Idle := by
      induction indices with
      | nil =>
        rw [List.mapM_nil]
        exact Program.idle_pure _
      | cons index rest ih =>
        rw [List.mapM_cons]
        exact .bind (Program.idle_native fun _ => rfl) fun _ => .bind ih fun _ => Program.idle_pure _
    exact Trace.idle_append_iff.2 ⟨idle _ _ _ ha, Trace.idle_nil⟩
  · intro found hm
    obtain ⟨queue, -, rfl⟩ := List.mem_map.1 (List.mem_toArray.1 hm)
    exact ⟨rfl, rfl⟩

end Queue

/-- The queues that a family was requested with. -/
def QueueFamily.request (family : QueueFamily) : QueueRequest := ⟨family.index, family.count⟩

/-- A family was built as requested: it has an array for its queues unless it has none, and there are as many records,
which carry the tag and the device. -/
structure BuiltFamily.Fits (device : Address) (built : BuiltFamily) (request : QueueRequest) : Prop where
  index : built.family.index = request.family
  count : built.family.count = request.count
  queues : built.family.queues.isSome ↔ request.count ≠ 0
  size : built.queues.size = request.count.toNat
  records : ∀ found ∈ built.queues, found.header.tag = ObjectKind.queue.tag ∧ found.device = device

namespace QueueFamily

variable {allocator : Allocator} {device : Address} {native : NativeHandle} {block : Option Address} {count : UInt64}
  {built : List BuiltFamily} {families : List QueueFamily} {requests : List QueueRequest} {trace : Trace}

@[simp] theorem owned_nil : owned allocator [] = 0 := rfl

theorem owned_cons (family : QueueFamily) : owned allocator (family :: families) =
    allocator.grantedArray .queue family.count.toUInt64 family.queues + owned allocator families := by
  rw [owned, List.map_cons, List.sum_cons]
  rfl

theorem owned_append (others : List QueueFamily) :
    owned allocator (families ++ others) = owned allocator families + owned allocator others := by
  rw [owned, List.map_append, List.sum_append]
  rfl

/-- The arrays lie where the families say. -/
theorem addresses_owned (allocator : Allocator) (families : List QueueFamily) :
    (owned allocator families).map Grant.address = families.filterMap (·.queues) := by
  induction families with
  | nil => rfl
  | cons family rest ih =>
    rw [owned_cons, Multiset.map_add, ih, List.filterMap_cons]
    cases family.queues with
    | none => exact Multiset.zero_add _
    | some place => rfl

variable [Reckoning]

theorem runs_freeQueues {result : Unit} (hf : allocator.Returns)
    (hq : ∀ family ∈ families, family.queues.isSome → family.count ≠ 0)
    (h : (freeQueues allocator families).Runs trace result) : trace.Effect (owned allocator families) [] 0 := by
  induction families generalizing trace with
  | nil =>
    obtain ⟨rfl, -⟩ := h
    exact .nil 0
  | cons family rest ih =>
    rw [freeQueues, Program.runs_bind_iff] at h
    obtain ⟨first, last, done, rfl, hfree, h⟩ := h
    have hfirst := Allocator.runs_freeArray hf Layout.small_queue (toNat_toUInt64_lt family.count)
      (fun hs => toUInt64_ne_zero (hq family (List.mem_cons_self ..) hs)) hfree
    have hlast := ih (fun other hm => hq other (List.mem_cons_of_mem _ hm)) h
    rw [owned_cons]
    exact hfirst.both hlast

/-- All arrays are given back. -/
theorem runs_freeAll {result : Unit} (hf : allocator.Returns) (hl : count.toNat < 2 ^ 32)
    (hb : block.isSome → count ≠ 0) (hq : ∀ family ∈ families, family.queues.isSome → family.count ≠ 0)
    (h : (freeAll allocator block families count).Runs trace result) :
    trace.Effect (allocator.grantedArray .queueFamily count block + owned allocator families) [] 0 := by
  rw [freeAll, Program.runs_bind_iff] at h
  obtain ⟨first, last, done, rfl, hqueues, h⟩ := h
  rw [Multiset.add_comm]
  exact (runs_freeQueues hf hq hqueues).both (Allocator.runs_freeArray hf Layout.small_queueFamily hl hb h)

/-- The remaining families are built as requested, or all arrays are given back. -/
theorem runs_buildRest {result : Except CallError (List BuiltFamily)} (hf : allocator.Returns)
    (hl : count.toNat < 2 ^ 32) (hb : block.isSome → count ≠ 0)
    (hq : ∀ entry ∈ built, entry.family.queues.isSome → entry.family.count ≠ 0)
    (h : (buildRest allocator device native block count built requests).Runs trace result) :
    (∃ new, result = .ok (built ++ new) ∧ List.Forall₂ (BuiltFamily.Fits device) new requests ∧
        trace.Effect 0 [] (owned allocator (new.map (·.family)))) ∨
      ∃ error, result = .error error ∧
        trace.Effect (allocator.grantedArray .queueFamily count block + owned allocator (built.map (·.family))) [] 0 := by
  induction requests generalizing built trace with
  | nil =>
    obtain ⟨rfl, rfl⟩ := h
    exact .inl ⟨[], by rw [List.append_nil], .nil, .nil 0⟩
  | cons request rest ih =>
    rw [buildRest, Program.runs_bind_iff] at h
    obtain ⟨allocating, last, allocated, rfl, ha, h⟩ := h
    obtain ⟨queues, rfl, hsome, he⟩ | ⟨rfl, hi⟩ := Allocator.runs_allocateArray ha
    · dsimp only at h
      rw [Program.runs_bind_iff] at h
      obtain ⟨asking, last, records, rfl, ho, h⟩ := h
      obtain ⟨hio, hsize, hrecords⟩ := Queue.runs_obtainAll ho
      have hzero : queues.isSome ↔ request.count ≠ 0 := by
        refine hsome.trans ⟨fun hn hz => hn ?_, toUInt64_ne_zero⟩
        rw [hz]
        rfl
      have hq' : ∀ entry ∈ built ++ [⟨⟨request.family, request.count, queues⟩, records⟩],
          entry.family.queues.isSome → entry.family.count ≠ 0 := by
        intro entry hm
        obtain hm | hm := List.mem_append.1 hm
        · exact hq entry hm
        · rw [List.mem_singleton.1 hm]
          exact hzero.1
      have hheld := he.before_idle hio
      obtain ⟨new, rfl, hfits, hn⟩ | ⟨error, rfl, hn⟩ := ih hq' h
      · refine .inl ⟨_ :: new, by rw [List.append_assoc]; rfl, .cons ⟨rfl, rfl, hzero, hsize, hrecords⟩ hfits, ?_⟩
        rw [List.map_cons, owned_cons, ← List.append_assoc]
        exact hheld.obtain_more hn
      · refine .inr ⟨error, rfl, ?_⟩
        rw [List.map_append, owned_append, ← Multiset.add_assoc, List.map_cons, owned_cons,
          List.map_nil, owned_nil, Multiset.add_zero] at hn
        have := (Trace.Effect.nil
          (allocator.grantedArray .queueFamily count block + owned allocator (built.map (·.family)))).obtain_more hheld
        rw [← List.append_assoc]
        exact this.append hn
    · dsimp only at h
      rw [Program.runs_bind_iff] at h
      obtain ⟨freeing, _, done, rfl, hfree, rfl, rfl⟩ := h
      refine .inr ⟨_, rfl, .after_idle hi (.before_idle (runs_freeAll hf hl hb ?_ hfree) Trace.idle_nil)⟩
      intro family hm
      obtain ⟨entry, he, rfl⟩ := List.mem_map.1 hm
      exact hq entry he

/-- All families are built as requested, or nothing is kept. -/
theorem runs_build {result : Except CallError (Option Address × List BuiltFamily)} (hf : allocator.Returns)
    (hl : requests.length < 2 ^ 32) (h : (build allocator device native requests).Runs trace result) :
    (∃ block built, result = .ok (block, built) ∧ (block.isSome ↔ requests ≠ []) ∧
        List.Forall₂ (BuiltFamily.Fits device) built requests ∧
          trace.Effect 0 [] (allocator.grantedArray .queueFamily requests.length.toUInt64 block +
            owned allocator (built.map (·.family)))) ∨
      ∃ error, result = .error error ∧ trace.Effect 0 [] 0 := by
  have hnat : requests.length.toUInt64.toNat = requests.length := by
    rw [Nat.toUInt64_eq, UInt64.toNat_ofNat', Nat.mod_eq_of_lt (by omega)]
  have hzero : requests.length.toUInt64 ≠ 0 ↔ requests ≠ [] := by
    rw [ne_eq, ← UInt64.toNat_inj, hnat, UInt64.toNat_zero, List.length_eq_zero_iff]
  unfold build at h
  dsimp only at h
  rw [Program.runs_bind_iff] at h
  obtain ⟨allocating, last, allocated, rfl, ha, h⟩ := h
  obtain ⟨block, rfl, hsome, he⟩ | ⟨rfl, hi⟩ := Allocator.runs_allocateArray ha
  · dsimp only at h
    rw [Program.runs_bind_iff] at h
    obtain ⟨building, last, built, rfl, hb, h⟩ := h
    obtain ⟨new, rfl, hfits, hn⟩ | ⟨error, rfl, hn⟩ := runs_buildRest hf (by omega) hsome.1 (by exact nofun) hb
    · obtain ⟨rfl, rfl⟩ := h
      refine .inl ⟨block, new, rfl, hsome.trans hzero, hfits, ?_⟩
      exact he.obtain_more (hn.before_idle Trace.idle_nil)
    · obtain ⟨rfl, rfl⟩ := h
      refine .inr ⟨error, rfl, he.append ?_⟩
      rw [List.map_nil, owned_nil, Multiset.add_zero] at hn
      exact hn.before_idle Trace.idle_nil
  · obtain ⟨rfl, rfl⟩ := h
    exact .inr ⟨_, rfl, .before_idle (hi.effect 0) Trace.idle_nil⟩

end QueueFamily

end VulkanBridge
