import VulkanBridge.Proofs.Allocation
/-!
# Exchanges with allocators

The traces of allocating and freeing, to the letter: one exchange with the answer, or none where the callbacks lack the
function (`Allocator.asks`, `Allocator.returns`). An empty array takes no exchange at all.
-/

namespace VulkanBridge.Allocator

variable (allocator : Allocator)

/-- The exchange of an allocation. Callbacks without a function to allocate are not asked. -/
def asks (layout : Layout) (scope : Scope) (answer : Option Address) : Trace :=
  match allocator with
  | custom callbacks => callbacks.allocation.toList.map fun function =>
    ⟨.callback (.allocate function callbacks.userData layout.size layout.alignment scope), answer⟩
  | system => [⟨.systemAllocate layout, answer⟩]

/-- The exchange by which a block is given back. Callbacks without a function to free keep it. -/
def returns (layout : Layout) (address : Address) : Trace :=
  match allocator with
  | custom callbacks => callbacks.free.toList.map fun function =>
    ⟨.callback (.free function callbacks.userData (some address)), ()⟩
  | system => [⟨.systemFree address layout, ()⟩]

/-- The exchanges if a block is had for the time of one. -/
def lends (layout : Layout) (scope : Scope) (address : Address) (exchange : Exchange) : Trace :=
  allocator.asks layout scope (some address) ++ exchange :: allocator.returns layout address

/-- The exchange by which an array is given back, if there is one. -/
def returnsArray (element : Layout) (length : UInt64) (block : Option Address) : Trace :=
  block.elim [] (allocator.returns (element.array length))

/-- The exchange by which an array was obtained, if there is one. -/
def obtainsArray (element : Layout) (length : UInt64) (scope : Scope) (block : Option Address) : Trace :=
  block.elim [] fun address => allocator.asks (element.array length) scope (some address)

section Exchanges

variable {p : Exchange → Prop} {layout : Layout} {scope : Scope} {answer : Option Address} {address : Address}

/-- Whatever holds of an allocation, by callbacks or by the system. -/
theorem forall_mem_asks
    (hc : ∀ function data, p ⟨.callback (.allocate function data layout.size layout.alignment scope), answer⟩)
    (hs : p ⟨.systemAllocate layout, answer⟩) : ∀ exchange ∈ allocator.asks layout scope answer, p exchange := by
  intro exchange hm
  cases allocator with
  | custom callbacks =>
    obtain ⟨function, -, rfl⟩ := List.mem_map.1 hm
    exact hc function callbacks.userData
  | system =>
    rw [List.mem_singleton.1 hm]
    exact hs

/-- Whatever holds of giving a block back, by callbacks or by the system. -/
theorem forall_mem_returns (hc : ∀ function data, p ⟨.callback (.free function data (some address)), ()⟩)
    (hs : p ⟨.systemFree address layout, ()⟩) : ∀ exchange ∈ allocator.returns layout address, p exchange := by
  intro exchange hm
  cases allocator with
  | custom callbacks =>
    obtain ⟨function, -, rfl⟩ := List.mem_map.1 hm
    exact hc function callbacks.userData
  | system =>
    rw [List.mem_singleton.1 hm]
    exact hs

end Exchanges

theorem unobtained_returns (layout : Layout) (address : Address) :
    ∀ exchange ∈ allocator.returns layout address, exchange.obtained? = none :=
  allocator.forall_mem_returns (fun _ _ => rfl) rfl

variable {allocator} {layout element : Layout} {scope : Scope} {length : UInt64} {trace : Trace}

/-- Callbacks without a function to allocate obtain nothing; else an allocation is one exchange. -/
theorem runs_allocate_iff {answer : Option Address} (hl : layout.Sound) :
    (allocator.allocate layout.size layout.alignment scope).Runs trace answer ↔
      trace = allocator.asks layout scope answer ∧ (answer.isSome → trace.length = 1) := by
  cases allocator with
  | custom callbacks =>
    simp only [allocate, Callbacks.allocate, asks]
    cases callbacks.allocation with
    | none =>
      constructor
      · rintro ⟨rfl, rfl⟩
        exact ⟨rfl, nofun⟩
      · rintro ⟨rfl, h⟩
        cases answer with
        | none => exact ⟨rfl, rfl⟩
        | some address => cases h rfl
    | some function =>
      constructor
      · rintro ⟨_, _, rfl, rfl, rfl⟩
        exact ⟨rfl, fun _ => rfl⟩
      · rintro ⟨rfl, -⟩
        exact ⟨answer, [], rfl, rfl, rfl⟩
  | system =>
    simp only [allocate, if_neg hl.1, hl.2, asks]
    constructor
    · rintro ⟨_, _, rfl, rfl, rfl⟩
      exact ⟨rfl, fun _ => rfl⟩
    · rintro ⟨rfl, -⟩
      exact ⟨answer, [], rfl, rfl, rfl⟩

/-- Storage for one object is one allocation. -/
theorem runs_allocateObject_iff {result : Except CallError Address} (hl : layout.Sound) :
    (allocator.allocateObject layout scope).Runs trace result ↔
      ∃ answer : Option Address, trace = allocator.asks layout scope answer ∧ (answer.isSome → trace.length = 1) ∧
        result = answer.elim (.error .outOfHostMemory) .ok := by
  unfold allocateObject
  simp only [Program.runs_bind_iff, runs_allocate_iff hl]
  constructor
  · rintro ⟨_, _, answer, rfl, ⟨rfl, hone⟩, hlast⟩
    refine ⟨answer, ?_⟩
    cases answer with
    | none =>
      obtain ⟨rfl, rfl⟩ := hlast
      exact ⟨List.append_nil _, nofun, rfl⟩
    | some address =>
      obtain ⟨rfl, rfl⟩ := hlast
      rw [List.append_nil]
      exact ⟨rfl, hone, rfl⟩
  · rintro ⟨answer, rfl, hone, rfl⟩
    refine ⟨_, [], answer, (List.append_nil _).symm, ⟨rfl, hone⟩, ?_⟩
    cases answer with
    | none => exact ⟨rfl, rfl⟩
    | some address => exact ⟨rfl, rfl⟩

theorem asks_of_allocateObject {result : Except CallError Address} (hl : layout.Sound)
    (h : (allocator.allocateObject layout scope).Runs trace result) :
    (∃ address, result = .ok address ∧ trace = allocator.asks layout scope (some address)) ∨
      (result = .error .outOfHostMemory ∧ trace = allocator.asks layout scope none) := by
  obtain ⟨answer, rfl, -, rfl⟩ := (runs_allocateObject_iff hl).1 h
  cases answer with
  | none => exact .inr ⟨rfl, rfl⟩
  | some address => exact .inl ⟨address, rfl, rfl⟩

/-- Memory that was obtained was asked for. -/
theorem length_asks_of_allocateObject {address : Address} (hl : layout.Sound)
    (h : (allocator.allocateObject layout scope).Runs trace (.ok address)) : trace.length = 1 := by
  obtain ⟨answer, -, hone, hr⟩ := (runs_allocateObject_iff hl).1 h
  cases answer with
  | none => cases hr
  | some _ => exact hone rfl

theorem runs_freeObject_iff {address : Address} {result : Unit} (hl : layout.Sound) :
    (allocator.freeObject layout address).Runs trace result ↔ trace = allocator.returns layout address := by
  unfold freeObject free
  cases allocator with
  | custom callbacks =>
    simp only [Callbacks.release, returns]
    cases callbacks.free with
    | none => exact ⟨And.left, fun h => ⟨h, rfl⟩⟩
    | some function =>
      constructor
      · rintro ⟨_, _, rfl, rfl, -⟩
        rfl
      · rintro rfl
        exact ⟨(), [], rfl, rfl, rfl⟩
  | system =>
    simp only [hl.2, returns]
    constructor
    · rintro ⟨_, _, rfl, rfl, -⟩
      rfl
    · rintro rfl
      exact ⟨(), [], rfl, rfl, rfl⟩

theorem returns_of_freeObject {address : Address} {result : Unit} (hl : layout.Sound)
    (h : (allocator.freeObject layout address).Runs trace result) : trace = allocator.returns layout address :=
  (runs_freeObject_iff hl).1 h

theorem asks_of_allocateElements {result : Except CallError Address} (he : element.Small) (hz : length ≠ 0)
    (hl : length.toNat < 2 ^ 32) (h : (allocator.allocateElements element length scope).Runs trace result) :
    (∃ address, result = .ok address ∧ trace = allocator.asks (element.array length) scope (some address)) ∨
      (result = .error .outOfHostMemory ∧ trace = allocator.asks (element.array length) scope none) := by
  unfold allocateElements at h
  rw [he.array? hl] at h
  exact asks_of_allocateObject (he.array_sound hz hl) h

/-- An array is obtained in one exchange, unless it is empty or refused. -/
theorem obtains_of_allocateArray {result : Except CallError (Option Address)} (he : element.Small)
    (hl : length.toNat < 2 ^ 32) (h : (allocator.allocateArray element length scope).Runs trace result) :
    (∃ block, result = .ok block ∧ (block.isSome ↔ length ≠ 0) ∧
        trace = allocator.obtainsArray element length scope block) ∨
      (length ≠ 0 ∧ result = .error .outOfHostMemory ∧ trace = allocator.asks (element.array length) scope none) := by
  unfold allocateArray at h
  split at h
  case isTrue hz =>
    obtain ⟨rfl, rfl⟩ := h
    exact .inl ⟨none, rfl, by simp [hz], rfl⟩
  case isFalse hz =>
    rw [Program.runs_bind_iff] at h
    obtain ⟨asking, _, answer, rfl, ha, h⟩ := h
    obtain ⟨address, rfl, rfl⟩ | ⟨rfl, rfl⟩ := asks_of_allocateElements he hz hl ha
    · obtain ⟨rfl, rfl⟩ := h
      exact .inl ⟨some address, rfl, by simp [hz], List.append_nil _⟩
    · obtain ⟨rfl, rfl⟩ := h
      exact .inr ⟨hz, rfl, List.append_nil _⟩

theorem returns_of_freeArray {block : Option Address} {result : Unit} (he : element.Small) (hl : length.toNat < 2 ^ 32)
    (hb : block.isSome → length ≠ 0) (h : (allocator.freeArray element length block).Runs trace result) :
    trace = allocator.returnsArray element length block := by
  unfold freeArray at h
  rw [he.array? hl] at h
  cases block with
  | none =>
    split at h
    · exact h.1
    · exact h.1
  | some address =>
    have hz := hb rfl
    rw [if_neg hz] at h
    exact returns_of_freeObject (he.array_sound hz hl) h

end VulkanBridge.Allocator
