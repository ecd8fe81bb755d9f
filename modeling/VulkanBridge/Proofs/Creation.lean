import VulkanBridge.Proofs.Loader
import VulkanBridge.Proofs.Storage
import VulkanBridge.Proofs.Lifetimes
/-!
# Creating a device in full or not at all

`Trace.dealings` are the exchanges of a trace that obtain memory or give it back, that make or destroy native objects, or
that find an entry point missing. Those of a device that is created are one exchange for every block and one for the
native device. Those of a creation that fails (`Device.Fails`) end by giving back what was obtained: arrays of queues in
the order of their families, the array of the families, the native device, and the record last, since the native device
calls back through it. `created_or_undone` says that there is no third way.
-/

namespace VulkanBridge

/-! ## Dealings -/

/-- A native device does not provide a function. -/
def Exchange.missing (native : NativeHandle) (name : String) : Exchange := ⟨.deviceEntryPoint native name, false⟩

/-- The exchange is neither for the log nor a look at the queues of a native device or at a function that it provides. -/
def Exchange.isDealing : Exchange → Bool
  | ⟨.notice _, _⟩ | ⟨.deviceEntryPoint .., true⟩ | ⟨.native (.deviceQueue ..), _⟩ => false
  | _ => true

namespace Trace

/-- The exchanges that deal with memory or with native objects, and those that find functions missing. -/
def dealings (trace : Trace) : Trace := trace.filter Exchange.isDealing

@[simp] theorem dealings_nil : dealings [] = [] := rfl

@[simp] theorem dealings_append (first last : Trace) : (first ++ last).dealings = first.dealings ++ last.dealings :=
  List.filter_append ..

end Trace

namespace Allocator

variable (allocator : Allocator)

@[simp] theorem dealings_asks (layout : Layout) (scope : Scope) (answer : Option Address) :
    (allocator.asks layout scope answer).dealings = allocator.asks layout scope answer :=
  List.filter_eq_self.2 (allocator.forall_mem_asks (fun _ _ => rfl) rfl)

@[simp] theorem dealings_returns (layout : Layout) (address : Address) :
    (allocator.returns layout address).dealings = allocator.returns layout address :=
  List.filter_eq_self.2 (allocator.forall_mem_returns (fun _ _ => rfl) rfl)

@[simp] theorem dealings_obtainsArray (element : Layout) (length : UInt64) (scope : Scope) (block : Option Address) :
    (allocator.obtainsArray element length scope block).dealings = allocator.obtainsArray element length scope block := by
  cases block with
  | none => rfl
  | some address => exact allocator.dealings_asks ..

@[simp] theorem dealings_returnsArray (element : Layout) (length : UInt64) (block : Option Address) :
    (allocator.returnsArray element length block).dealings = allocator.returnsArray element length block := by
  cases block with
  | none => rfl
  | some address => exact allocator.dealings_returns ..

end Allocator

theorem NativeLibrary.dealings_requireAll (native : NativeHandle) {names : List String} {trace : Trace}
    {result : Except CallError Unit} (h : (requireAll (hasDeviceEntry native) names).Runs trace result) :
    (result = .ok () ∧ trace.dealings = []) ∨
      ∃ name ∈ names, result = .error (.missingEntryPoint name) ∧ trace.dealings = [.missing native name] := by
  have silent (names : List String) :
      Trace.dealings (names.map fun name => ⟨.deviceEntryPoint native name, true⟩) = [] :=
    List.filter_eq_nil_iff.2 (List.forall_mem_map.2 fun _ _ => Bool.false_ne_true)
  obtain ⟨rfl, rfl⟩ | ⟨earlier, name, later, rfl, rfl, rfl⟩ := runs_requireAll (fun _ _ _ => Program.runs_request_iff.1) h
  · exact .inl ⟨rfl, silent names⟩
  · refine .inr ⟨name, List.mem_append_right _ (List.mem_cons_self ..), rfl, ?_⟩
    rw [Trace.dealings_append, silent earlier]
    rfl

/-! ## Families -/

namespace Queue

theorem dealings_obtainAll {device : Address} {native : NativeHandle} {family count : UInt32} {trace : Trace}
    {records : Array Queue} (h : (obtainAll device native family count).Runs trace records) : trace.dealings = [] := by
  unfold obtainAll at h
  rw [Program.runs_bind_iff] at h
  obtain ⟨asking, _, queues, rfl, ha, rfl, -⟩ := h
  have silent (indices : List Nat) (asking : Trace) (queues : List NativeHandle)
      (h : (indices.mapM fun index => Native.deviceQueue native family index.toUInt32).Runs asking queues) :
      asking.dealings = [] := by
    induction indices generalizing asking queues with
    | nil =>
      rw [List.mapM_nil] at h
      obtain ⟨rfl, -⟩ := h
      rfl
    | cons index rest ih =>
      rw [List.mapM_cons] at h
      simp only [Program.runs_bind_iff] at h
      obtain ⟨first, _, queue, rfl, hq, others, _, found, rfl, hrest, rfl, -⟩ := h
      obtain rfl := Program.runs_native_iff.1 hq
      rw [Trace.dealings_append, Trace.dealings_append, ih _ _ hrest]
      rfl
  rw [Trace.dealings_append, silent _ _ _ ha]
  rfl

end Queue

namespace QueueFamily

variable (allocator : Allocator)

/-- The exchanges by which the arrays of the queues of families are obtained, in order. -/
def obtains (families : List QueueFamily) : Trace :=
  families.flatMap fun family => allocator.obtainsArray .queue family.count.toUInt64 .device family.queues

/-- The exchanges by which the arrays of the queues of families are given back, in order. -/
def returns (families : List QueueFamily) : Trace :=
  families.flatMap fun family => allocator.returnsArray .queue family.count.toUInt64 family.queues

/-- The family is as requested, and has an array for its queues unless it has none. -/
structure Serves (family : QueueFamily) (request : QueueRequest) : Prop where
  index : family.index = request.family
  count : family.count = request.count
  queues : family.queues.isSome ↔ request.count ≠ 0

/-- The dealings of building families in vain. There is no memory for the array of the families, or for the queues of one
of them: then the arrays of those before it go in order, and the array of the families after them. -/
inductive Fails (requests : List QueueRequest) : Trace → Prop
  | families : requests ≠ [] →
      Fails requests (allocator.asks (Layout.queueFamily.array requests.length.toUInt64) .device none)
  | queues {block : Address} {earlier later : List QueueRequest} {request : QueueRequest} {built : List QueueFamily} :
      requests = earlier ++ request :: later → List.Forall₂ Serves built earlier → request.count ≠ 0 →
        Fails requests
          (allocator.asks (Layout.queueFamily.array requests.length.toUInt64) .device (some block) ++
            obtains allocator built ++ allocator.asks (Layout.queue.array request.count.toUInt64) .device none ++
              returns allocator built ++ allocator.returns (Layout.queueFamily.array requests.length.toUInt64) block)

variable {allocator} {families : List QueueFamily} {block : Option Address} {count : UInt64} {trace : Trace}

theorem returns_of_freeQueues {result : Unit} (hq : ∀ family ∈ families, family.queues.isSome → family.count ≠ 0)
    (h : (freeQueues allocator families).Runs trace result) : trace = returns allocator families := by
  induction families generalizing trace with
  | nil => exact h.1
  | cons family rest ih =>
    rw [freeQueues, Program.runs_bind_iff] at h
    obtain ⟨first, last, done, rfl, hfree, h⟩ := h
    rw [ih (fun other hm => hq other (List.mem_cons_of_mem _ hm)) h]
    rw [Allocator.returns_of_freeArray Layout.small_queue (toNat_toUInt64_lt family.count)
      (fun hs => toUInt64_ne_zero (hq family (List.mem_cons_self ..) hs)) hfree]
    rfl

theorem returns_of_freeAll {result : Unit} (hl : count.toNat < 2 ^ 32) (hb : block.isSome → count ≠ 0)
    (hq : ∀ family ∈ families, family.queues.isSome → family.count ≠ 0)
    (h : (freeAll allocator block families count).Runs trace result) :
    trace = returns allocator families ++ allocator.returnsArray .queueFamily count block := by
  rw [freeAll, Program.runs_bind_iff] at h
  obtain ⟨first, last, done, rfl, hqueues, h⟩ := h
  rw [returns_of_freeQueues hq hqueues, Allocator.returns_of_freeArray Layout.small_queueFamily hl hb h]

theorem dealings_returns (families : List QueueFamily) : (returns allocator families).dealings = returns allocator families := by
  induction families with
  | nil => rfl
  | cons family rest ih =>
    rw [show returns allocator (family :: rest) =
      allocator.returnsArray .queue family.count.toUInt64 family.queues ++ returns allocator rest from rfl]
    rw [Trace.dealings_append, ih, Allocator.dealings_returnsArray]

/-- The remaining families are built, one array after another, or the first array that cannot be had undoes all. -/
theorem dealings_buildRest {device : Address} {native : NativeHandle} {built : List BuiltFamily}
    {requests : List QueueRequest} {result : Except CallError (List BuiltFamily)} (hl : count.toNat < 2 ^ 32)
    (hb : block.isSome → count ≠ 0) (hq : ∀ entry ∈ built, entry.family.queues.isSome → entry.family.count ≠ 0)
    (h : (buildRest allocator device native block count built requests).Runs trace result) :
    (∃ new, result = .ok (built ++ new) ∧ List.Forall₂ Serves (new.map (·.family)) requests ∧
        trace.dealings = obtains allocator (new.map (·.family))) ∨
      ∃ earlier request later new, requests = earlier ++ request :: later ∧ List.Forall₂ Serves new earlier ∧
        request.count ≠ 0 ∧ result = .error .outOfHostMemory ∧
          trace.dealings = obtains allocator new ++
            allocator.asks (Layout.queue.array request.count.toUInt64) .device none ++
              returns allocator (built.map (·.family) ++ new) ++ allocator.returnsArray .queueFamily count block := by
  -- On the requests that remain. A failure gives back the families built before them too, so `built` grows with each.
  induction requests generalizing built trace with
  | nil =>
    obtain ⟨rfl, rfl⟩ := h
    exact .inl ⟨[], by rw [List.append_nil], .nil, rfl⟩
  | cons request rest ih =>
    rw [buildRest, Program.runs_bind_iff] at h
    obtain ⟨allocating, last, allocated, rfl, ha, h⟩ := h
    obtain ⟨queues, rfl, hsome, rfl⟩ | ⟨hz, rfl, rfl⟩ :=
      Allocator.obtains_of_allocateArray Layout.small_queue (toNat_toUInt64_lt request.count) ha
    · dsimp only at h
      rw [Program.runs_bind_iff] at h
      obtain ⟨asking, last, records, rfl, ho, h⟩ := h
      have hsilent := Queue.dealings_obtainAll ho
      have hserves : Serves ⟨request.family, request.count, queues⟩ request := by
        refine ⟨rfl, rfl, hsome.trans ⟨fun hn hz => hn ?_, toUInt64_ne_zero⟩⟩
        rw [hz]
        rfl
      have hq' : ∀ entry ∈ built ++ [⟨⟨request.family, request.count, queues⟩, records⟩],
          entry.family.queues.isSome → entry.family.count ≠ 0 := by
        intro entry hm
        obtain hm | hm := List.mem_append.1 hm
        · exact hq entry hm
        · rw [List.mem_singleton.1 hm]
          exact hserves.queues.1
      obtain ⟨new, rfl, hnew, hd⟩ | ⟨earlier, failed, later, new, rfl, hnew, hz, rfl, hd⟩ := ih hq' h
      · refine .inl ⟨_ :: new, by rw [List.append_assoc]; rfl, .cons hserves hnew, ?_⟩
        rw [Trace.dealings_append, Trace.dealings_append, hsilent, hd, Allocator.dealings_obtainsArray]
        rfl
      · refine .inr ⟨request :: earlier, failed, later, _ :: new, rfl, .cons hserves hnew, hz, rfl, ?_⟩
        rw [Trace.dealings_append, Trace.dealings_append, hsilent, hd, Allocator.dealings_obtainsArray, List.map_append]
        simp [obtains]
    · dsimp only at h
      rw [Program.runs_bind_iff] at h
      obtain ⟨freeing, _, done, rfl, hfree, rfl, rfl⟩ := h
      have hq' : ∀ family ∈ built.map (·.family), family.queues.isSome → family.count ≠ 0 := by
        intro family hm
        obtain ⟨entry, he, rfl⟩ := List.mem_map.1 hm
        exact hq entry he
      have hzero : request.count ≠ 0 := by
        rintro hzero
        rw [hzero] at hz
        exact hz rfl
      refine .inr ⟨[], request, rest, [], rfl, .nil, hzero, rfl, ?_⟩
      rw [returns_of_freeAll hl hb hq' hfree]
      simp [dealings_returns, obtains]

/-- All families are built, or the array that cannot be had undoes all. -/
theorem dealings_build {device : Address} {native : NativeHandle} {requests : List QueueRequest}
    {result : Except CallError (Option Address × List BuiltFamily)} (hl : requests.length < 2 ^ 32)
    (h : (build allocator device native requests).Runs trace result) :
    (∃ block built, result = .ok (block, built) ∧ (block.isSome ↔ requests ≠ []) ∧
        List.Forall₂ Serves (built.map (·.family)) requests ∧
          trace.dealings = allocator.obtainsArray .queueFamily requests.length.toUInt64 .device block ++
            obtains allocator (built.map (·.family))) ∨
      (result = .error .outOfHostMemory ∧ Fails allocator requests trace.dealings) := by
  have hnat : requests.length.toUInt64.toNat = requests.length := by
    rw [Nat.toUInt64_eq, UInt64.toNat_ofNat', Nat.mod_eq_of_lt (by omega)]
  have hzero : requests.length.toUInt64 ≠ 0 ↔ requests ≠ [] := by
    rw [ne_eq, ← UInt64.toNat_inj, hnat, UInt64.toNat_zero, List.length_eq_zero_iff]
  unfold build at h
  dsimp only at h
  rw [Program.runs_bind_iff] at h
  obtain ⟨allocating, last, allocated, rfl, ha, h⟩ := h
  obtain ⟨block, rfl, hsome, rfl⟩ | ⟨hz, rfl, rfl⟩ :=
    Allocator.obtains_of_allocateArray Layout.small_queueFamily (by omega) ha
  · dsimp only at h
    rw [Program.runs_bind_iff] at h
    obtain ⟨building, last, built, rfl, hb, h⟩ := h
    obtain ⟨new, rfl, hserves, hd⟩ | ⟨earlier, request, later, new, hrequests, hserves, hz, rfl, hd⟩ :=
      dealings_buildRest (by omega) hsome.1 (by exact nofun) hb
    · obtain ⟨rfl, rfl⟩ := h
      exact .inl ⟨block, new, rfl, hsome.trans hzero, hserves, by simp [hd]⟩
    · obtain ⟨rfl, rfl⟩ := h
      have hne : requests ≠ [] := by
        rw [hrequests]
        exact List.append_ne_nil_of_right_ne_nil _ (List.cons_ne_nil _ _)
      obtain ⟨address, rfl⟩ := Option.isSome_iff_exists.1 ((hsome.trans hzero).2 hne)
      refine .inr ⟨rfl, ?_⟩
      rw [Trace.dealings_append, Trace.dealings_append, hd, Trace.dealings_nil, List.append_nil,
        Allocator.dealings_obtainsArray, List.map_nil, List.nil_append]
      have hfails := @Fails.queues allocator requests address _ _ _ _ hrequests hserves hz
      simp only [List.append_assoc] at hfails ⊢
      exact hfails
  · obtain ⟨rfl, rfl⟩ := h
    refine .inr ⟨rfl, ?_⟩
    rw [List.append_nil, Allocator.dealings_asks]
    exact .families (hzero.1 hz)

end QueueFamily

/-! ## Devices -/

namespace Device

variable (allocator : Allocator) (physicalDevice : NativeHandle) (info : DeviceInfo)

/-- The code and the dealings of making a native device in vain. It is refused, or destroyed again because it lacks a
function that is needed or because there is no memory for its queues. -/
inductive NativeFails (storage : Address) : ResultCode → Trace → Prop
  | refused (code : FailureCode) : NativeFails storage code.val [creation allocator physicalDevice info storage (.error code)]
  | incomplete (native : NativeHandle) {name : String} : name ∈ deviceNames →
      NativeFails storage .initializationFailed
        [creation allocator physicalDevice info storage (.ok native), .missing native name, undoing allocator storage native]
  | unbuilt (native : NativeHandle) {building : Trace} : QueueFamily.Fails allocator info.queues.toList building →
      NativeFails storage .outOfHostMemory
        (creation allocator physicalDevice info storage (.ok native) :: building ++ [undoing allocator storage native])

/-- The code and the dealings of creating a device in vain. Layers and extensions are refused before anything is asked;
the record is the first block obtained and the last one given back. -/
inductive Fails : ResultCode → Trace → Prop
  | layers : 0 < info.layers → Fails .layerNotPresent []
  | extensions : info.layers = 0 → 0 < info.extensions → Fails .extensionNotPresent []
  | unrecorded : Fails .outOfHostMemory (allocator.asks .device .device none)
  | undone {storage : Address} {code : ResultCode} {dealings : Trace} :
      NativeFails allocator physicalDevice info storage code dealings →
        Fails code (allocator.asks .device .device (some storage) ++ dealings ++ allocator.returns .device storage)

variable {allocator physicalDevice info} {trace : Trace} {storage : Address}

theorem NativeFails.code_ne {code : ResultCode} {dealings : Trace}
    (h : NativeFails allocator physicalDevice info storage code dealings) : code ≠ .success := by
  cases h with
  | refused code => exact code.property
  | incomplete _ _ => decide
  | unbuilt _ _ => decide

/-- What fails does not report success. -/
theorem Fails.code_ne {code : ResultCode} {dealings : Trace} (h : Fails allocator physicalDevice info code dealings) :
    code ≠ .success := by
  cases h with
  | layers _ => decide
  | extensions _ _ => decide
  | unrecorded => decide
  | undone h => exact h.code_ne

theorem undoing_of_abandonNative {native : NativeHandle} {callbacks : Option NativeCallbacks} {result : Unit}
    (hn : .noDestroyDevice native ∉ trace) (h : (abandonNative native callbacks).Runs trace result) :
    trace.dealings = [.native (.destroyDevice native callbacks) ()] := by
  obtain rfl | rfl :=
    NativeLibrary.runs_abandon (fun _ _ => Program.runs_request_iff.1) (fun _ => Program.runs_native_iff.1) h
  · rfl
  · exact absurd (List.mem_cons_self ..) hn

/-- The native device and its families, or nothing of them. -/
theorem dealings_createNative {result : Except CallError (NativeHandle × Option Address × List BuiltFamily)}
    (hl : info.queues.toList.length < 2 ^ 32) (hn : ∀ native, .noDestroyDevice native ∉ trace)
    (h : (createNative physicalDevice info allocator storage).Runs trace result) :
    (∃ native block built, result = .ok (native, block, built) ∧ (block.isSome ↔ info.queues.toList ≠ []) ∧
        List.Forall₂ QueueFamily.Serves (built.map (·.family)) info.queues.toList ∧
          trace.dealings = creation allocator physicalDevice info storage (.ok native) ::
            allocator.obtainsArray .queueFamily info.queues.toList.length.toUInt64 .device block ++
              QueueFamily.obtains allocator (built.map (·.family))) ∨
      ∃ error, result = .error error ∧ NativeFails allocator physicalDevice info storage error.result trace.dealings := by
  have hcreation (created : Except FailureCode NativeHandle) :
      Trace.dealings [creation allocator physicalDevice info storage created] =
        [creation allocator physicalDevice info storage created] := rfl
  cases nativeSteps h with
  | refused code => exact .inr ⟨_, rfl, .refused code⟩
  | @incomplete native resolving abandoning error hr ha =>
    have hundoing := undoing_of_abandonNative (fun hm => hn native (by simp [hm])) ha
    obtain ⟨hfound, -⟩ | ⟨name, hname, hfound, hmissing⟩ := NativeLibrary.dealings_requireAll native hr
    · cases hfound
    cases hfound
    refine .inr ⟨_, rfl, ?_⟩
    rw [Trace.dealings_append, Trace.dealings_append, hcreation, hmissing, hundoing]
    exact .incomplete native hname
  | @unbuilt native resolving building error hr hb =>
    obtain ⟨-, hsilent⟩ | ⟨_, _, hfound, -⟩ := NativeLibrary.dealings_requireAll native hr
    case inr => cases hfound
    obtain ⟨_, _, hbuilt, -⟩ | ⟨hbuilt, hfails⟩ := QueueFamily.dealings_build hl hb
    · cases hbuilt
    cases hbuilt
    have hundoing : Trace.dealings [undoing allocator storage native] = [undoing allocator storage native] := rfl
    refine .inr ⟨_, rfl, ?_⟩
    rw [Trace.dealings_append, Trace.dealings_append, Trace.dealings_append, hcreation, hsilent, hundoing]
    exact .unbuilt native hfails
  | @built native resolving building block built hr hb =>
    obtain ⟨-, hsilent⟩ | ⟨_, _, hfound, -⟩ := NativeLibrary.dealings_requireAll native hr
    case inr => cases hfound
    obtain ⟨_, _, hbuilt, hsome, hserves, hd⟩ | ⟨hbuilt, -⟩ := QueueFamily.dealings_build hl hb
    case inr => cases hbuilt
    cases hbuilt
    refine .inl ⟨native, block, built, rfl, hsome, hserves, ?_⟩
    rw [Trace.dealings_append, Trace.dealings_append, hcreation, hsilent, hd]
    rfl

/-- The record, the native device and the families, or nothing of them. -/
theorem dealings_build {parent : Allocator} {explicit : Option CallbackSet} {result : Except CallError BuiltDevice}
    (hl : info.queues.toList.length < 2 ^ 32) (hn : ∀ native, .noDestroyDevice native ∉ trace)
    (h : (build physicalDevice parent info explicit).Runs trace result) :
    (∃ storage native block built,
        result = .ok ⟨storage, new native (Allocator.merge explicit parent) block (built.map (·.family)), queueRecords built⟩ ∧
        (block.isSome ↔ info.queues.toList ≠ []) ∧
        List.Forall₂ QueueFamily.Serves (built.map (·.family)) info.queues.toList ∧
        trace.dealings = (Allocator.merge explicit parent).asks .device .device (some storage) ++
          creation (Allocator.merge explicit parent) physicalDevice info storage (.ok native) ::
            (Allocator.merge explicit parent).obtainsArray .queueFamily info.queues.toList.length.toUInt64 .device block ++
              QueueFamily.obtains (Allocator.merge explicit parent) (built.map (·.family))) ∨
      ∃ error, result = .error error ∧
        Fails (Allocator.merge explicit parent) physicalDevice info error.result trace.dealings := by
  cases steps h with
  | @unsupported error hu =>
    obtain ⟨hlayers, hrefused⟩ | ⟨hlayers, hextensions, hrefused⟩ | ⟨-, -, hrefused⟩ :=
      CallError.ofUnsupported_cases info.layers info.extensions
    · obtain rfl := Option.some.inj (hu.symm.trans hrefused)
      exact .inr ⟨_, rfl, .layers hlayers⟩
    · obtain rfl := Option.some.inj (hu.symm.trans hrefused)
      exact .inr ⟨_, rfl, .extensions hlayers hextensions⟩
    · rw [hu] at hrefused
      cases hrefused
  | @unrecorded asking error _ ha =>
    obtain ⟨_, hstored, -⟩ | ⟨hstored, rfl⟩ := Allocator.asks_of_allocateObject sound_device ha
    · cases hstored
    cases hstored
    refine .inr ⟨_, rfl, ?_⟩
    rw [Allocator.dealings_asks]
    exact .unrecorded
  | @undone asking creating freeing storage error _ ha hc hu =>
    obtain ⟨_, hstored, rfl⟩ | ⟨hstored, -⟩ := Allocator.asks_of_allocateObject sound_device ha
    case inr => cases hstored
    cases hstored
    have hn' : ∀ native, .noDestroyDevice native ∉ creating := fun native hm =>
      hn native (List.mem_append_right _ (List.mem_append_left _ hm))
    obtain ⟨_, _, _, hcreated, -⟩ | ⟨_, hcreated, hfails⟩ := dealings_createNative hl hn' hc
    · cases hcreated
    cases hcreated
    refine .inr ⟨error, rfl, ?_⟩
    rw [Trace.dealings_append, Trace.dealings_append, Allocator.dealings_asks,
      Allocator.returns_of_freeObject sound_device hu, Allocator.dealings_returns, ← List.append_assoc]
    exact .undone hfails
  | @built asking creating storage native block built _ ha hc =>
    obtain ⟨_, hstored, rfl⟩ | ⟨hstored, -⟩ := Allocator.asks_of_allocateObject sound_device ha
    case inr => cases hstored
    cases hstored
    have hn' : ∀ native, .noDestroyDevice native ∉ creating := fun native hm =>
      hn native (List.mem_append_right _ (List.mem_append_left _ hm))
    obtain ⟨_, _, _, hcreated, hsome, hserves, hd⟩ | ⟨_, hcreated, -⟩ := dealings_createNative hl hn' hc
    case inr => cases hcreated
    cases hcreated
    have htold : Trace.dealings [⟨.notice (.deviceCreated native built.length), ()⟩] = [] := rfl
    refine .inl ⟨storage, native, block, built, rfl, hsome, hserves, ?_⟩
    rw [Trace.dealings_append, Trace.dealings_append, htold, hd, Allocator.dealings_asks, List.append_nil, List.append_assoc]

end Device

/-! ## The call -/

section Use

variable {bridge before after : Bridge} {history : List Event} {handle : Handle} {found : PhysicalDevice}
  {info : DeviceInfo} {explicit : Option CallbackSet} {trace : Trace} {code : ResultCode} {stored : Option Handle}

/-- An array of physical devices belongs to an instance. -/
theorem Bridge.Sound.owner_of_physicalDevices [Reckoning] {address : Address} {records : Array PhysicalDevice}
    (hs : bridge.Sound) (hb : bridge.blocks[address]? = some (.physicalDevices records)) :
    ∃ (owner : Address) (inst : Instance), bridge.blocks[owner]? = some (.inst inst) ∧
      ∀ found ∈ records, found.header.tag = ObjectKind.physicalDevice.tag ∧ found.inst = owner := by
  obtain hown | hbelongs := hs.owner_or_belongs hb
  · exact hown.elim
  · cases hbelongs with
    | physicalDevices howner hall => exact ⟨_, _, howner, hall⟩

/-- The record of a physical device is tagged, and belongs to an instance. -/
theorem Bridge.Sound.physicalDevice [Reckoning] (hs : bridge.Sound)
    (h : bridge.record? .physicalDevice handle = some found) :
    (bridge.header? handle).map (·.tag) = some ObjectKind.physicalDevice.tag ∧
      ∃ inst : Instance, bridge.blocks[found.inst]? = some (.inst inst) := by
  obtain ⟨block, hb, hrecord⟩ := Option.bind_eq_some_iff.1 h
  cases block with
  | physicalDevices records =>
    obtain ⟨owner, inst, howner, hall⟩ := hs.owner_of_physicalDevices hb
    have hrecord : records[handle.slot]? = some found := hrecord
    obtain ⟨ht, rfl⟩ := hall found (Array.mem_of_getElem? hrecord)
    exact ⟨by simp [Bridge.header?, hb, Block.header?, hrecord, ht], inst, howner⟩
  | _ => cases hrecord

end Use

/-! ## A creation that runs out of memory -/

namespace Sample

/-- Callbacks have no memory for two queues at once; all else goes well. -/
def short : Environment
  | number, .callback (.allocate _ _ size _ _) => if size = 64 then none else some (Environment.memory number)
  | number, request => Environment.obliging number request

/-- An instance whose physical devices are listed. -/
def listed : List Call :=
  [.enumeratePhysicalDevices (some inst) (some 1) true, .createInstance (some ⟨0, 0, 0⟩) (some (callbacks 1)) true]

end Sample

end VulkanBridge
