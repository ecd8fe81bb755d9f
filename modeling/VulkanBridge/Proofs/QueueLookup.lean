import VulkanBridge.Proofs.Creation
import VulkanBridge.Proofs.Handles
import VulkanBridge.Proofs.Tags
/-!
# Queues as requested

A device asks its native device for every queue that it was requested with, once and in order, and keeps a record of each
(`Device.queues_of_create`). What it has is what it `Offers`: the arrays of its families, with the native queues in them, stay
as they are until the device is destroyed. So a queue is found in them by its family and index at any time, it is the same
queue every time, and different queues are told apart (`queues_as_requested`).
-/

namespace VulkanBridge

/-! ## Questions for queues -/

/-- The exchange asks a native device for a queue. -/
def Exchange.asksQueue : Exchange → Bool
  | ⟨.native (.deviceQueue ..), _⟩ => true
  | _ => false

namespace Trace

/-- The exchanges that ask native devices for queues. -/
def queueQuestions (trace : Trace) : Trace := trace.filter Exchange.asksQueue

@[simp] theorem queueQuestions_nil : queueQuestions [] = [] := rfl

@[simp] theorem queueQuestions_append (first last : Trace) :
    (first ++ last).queueQuestions = first.queueQuestions ++ last.queueQuestions := List.filter_append ..

end Trace

@[simp] theorem Allocator.queueQuestions_asks (allocator : Allocator) (layout : Layout) (scope : Scope)
    (answer : Option Address) : (allocator.asks layout scope answer).queueQuestions = [] :=
  List.filter_eq_nil_iff.2 (allocator.forall_mem_asks (fun _ _ => nofun) nofun)

@[simp] theorem Allocator.queueQuestions_obtainsArray (allocator : Allocator) (element : Layout) (length : UInt64)
    (scope : Scope) (block : Option Address) :
    (allocator.obtainsArray element length scope block).queueQuestions = [] := by
  cases block with
  | none => rfl
  | some address => exact allocator.queueQuestions_asks ..

theorem NativeLibrary.queueQuestions_requireAll {native : NativeHandle} {names : List String} {trace : Trace}
    {result : Except CallError Unit} (h : (requireAll (hasDeviceEntry native) names).Runs trace result) :
    trace.queueQuestions = [] := by
  have silent (names : List String) :
      Trace.queueQuestions (names.map fun name => ⟨.deviceEntryPoint native name, true⟩) = [] :=
    List.filter_eq_nil_iff.2 (List.forall_mem_map.2 fun _ _ => Bool.false_ne_true)
  obtain ⟨rfl, rfl⟩ | ⟨earlier, name, later, rfl, rfl, rfl⟩ := runs_requireAll (fun _ _ _ => Program.runs_request_iff.1) h
  · exact silent names
  · rw [Trace.queueQuestions_append, silent earlier]
    rfl

/-! ## Requests that were served -/

/-- A request with the native queues that were given for it, in order. -/
structure ServedRequest extends QueueRequest where
  natives : List NativeHandle
  complete : natives.length = count.toNat

/-- The questions for the queues of a request: one for every index below the count, in order. -/
def ServedRequest.questions (device : NativeHandle) (served : ServedRequest) : Trace :=
  served.natives.zipIdx.map fun (queue, index) => .native (.deviceQueue device served.family index.toUInt32) queue

theorem ServedRequest.queueQuestions_questions (device : NativeHandle) (served : ServedRequest) :
    (served.questions device).queueQuestions = served.questions device := by
  apply List.filter_eq_self.2
  intro exchange hm
  obtain ⟨found, -, rfl⟩ := List.mem_map.1 hm
  rfl

/-- A family was built for a request: it has an array for its queues unless it has none, and a record of each native
queue. -/
structure BuiltFamily.Holds (device : Address) (built : BuiltFamily) (served : ServedRequest) : Prop where
  index : built.family.index = served.family
  count : built.family.count = served.count
  queues : built.family.queues.isSome ↔ served.count ≠ 0
  records : built.queues = (served.natives.map (Queue.new device)).toArray

namespace Queue

variable {device : Address} {native : NativeHandle} {family count : UInt32} {trace : Trace}

theorem questions_of_mapM {indices : List Nat} {queues : List NativeHandle}
    (h : (indices.mapM fun index => Native.deviceQueue native family index.toUInt32).Runs trace queues) :
    trace = (queues.zip indices).map fun (queue, index) => .native (.deviceQueue native family index.toUInt32) queue := by
  induction indices generalizing trace queues with
  | nil =>
    rw [List.mapM_nil] at h
    obtain ⟨rfl, rfl⟩ := h
    rfl
  | cons index rest ih =>
    rw [List.mapM_cons] at h
    simp only [Program.runs_bind_iff] at h
    obtain ⟨asking, _, queue, rfl, ha, asking', _, others, rfl, hrest, rfl, rfl⟩ := h
    obtain rfl := Program.runs_native_iff.1 ha
    rw [ih hrest, List.append_nil]
    rfl

/-- The queues of a family are asked for once each, and each has a record. -/
theorem questions_of_obtainAll {records : Array Queue} (h : (obtainAll device native family count).Runs trace records) :
    ∃ queues : List NativeHandle, queues.length = count.toNat ∧ records = (queues.map (new device)).toArray ∧
      trace = queues.zipIdx.map fun (queue, index) => .native (.deviceQueue native family index.toUInt32) queue := by
  unfold obtainAll at h
  rw [Program.runs_bind_iff] at h
  obtain ⟨asking, _, queues, rfl, ha, rfl, rfl⟩ := h
  have hlength : queues.length = count.toNat := by rw [length_of_mapM ha, List.length_range]
  refine ⟨queues, hlength, rfl, ?_⟩
  rw [List.append_nil, questions_of_mapM ha, List.zipIdx_eq_zip_range', hlength, List.range_eq_range']

end Queue

namespace QueueFamily

variable {allocator : Allocator} {device : Address} {native : NativeHandle} {block : Option Address} {count : UInt64}
  {built : List BuiltFamily} {requests : List QueueRequest} {trace : Trace}

/-- Families that are built have asked for the queues of one request after another. -/
theorem questions_of_buildRest {all : List BuiltFamily}
    (h : (buildRest allocator device native block count built requests).Runs trace (.ok all)) :
    ∃ new served, all = built ++ new ∧ List.Forall₂ (BuiltFamily.Holds device) new served ∧
      served.map (·.toQueueRequest) = requests ∧ trace.queueQuestions = served.flatMap (·.questions native) := by
  induction requests generalizing built trace with
  | nil =>
    obtain ⟨rfl, h⟩ := h
    obtain rfl := Except.ok.inj h
    exact ⟨[], [], (List.append_nil _).symm, .nil, rfl, rfl⟩
  | cons request rest ih =>
    rw [buildRest, Program.runs_bind_iff] at h
    obtain ⟨allocating, last, allocated, rfl, ha, h⟩ := h
    obtain ⟨queues, rfl, hsome, rfl⟩ | ⟨-, rfl, rfl⟩ :=
      Allocator.obtains_of_allocateArray Layout.small_queue (toNat_toUInt64_lt request.count) ha
    · dsimp only at h
      rw [Program.runs_bind_iff] at h
      obtain ⟨asking, last, records, rfl, ho, h⟩ := h
      obtain ⟨natives, hcomplete, rfl, rfl⟩ := Queue.questions_of_obtainAll ho
      obtain ⟨new, served, rfl, hholds, rfl, hquestions⟩ := ih h
      have hzero : queues.isSome ↔ request.count ≠ 0 := by
        refine hsome.trans ⟨fun hn hz => hn ?_, toUInt64_ne_zero⟩
        rw [hz]
        rfl
      have hfirst := (ServedRequest.mk request natives hcomplete).queueQuestions_questions native
      refine ⟨_ :: new, ⟨request, natives, hcomplete⟩ :: served, by rw [List.append_assoc]; rfl,
        .cons ⟨rfl, rfl, hzero, rfl⟩ hholds, rfl, ?_⟩
      rw [Trace.queueQuestions_append, Trace.queueQuestions_append, Allocator.queueQuestions_obtainsArray, hquestions,
        List.nil_append, List.flatMap_cons, ← hfirst]
      rfl
    · dsimp only at h
      rw [Program.runs_bind_iff] at h
      obtain ⟨_, _, _, rfl, -, -, h⟩ := h
      cases h

theorem questions_of_build (hl : requests.length < 2 ^ 32)
    (h : (build allocator device native requests).Runs trace (.ok (block, built))) :
    ∃ served, List.Forall₂ (BuiltFamily.Holds device) built served ∧ served.map (·.toQueueRequest) = requests ∧
      trace.queueQuestions = served.flatMap (·.questions native) := by
  have hnat : requests.length.toUInt64.toNat = requests.length := by
    rw [Nat.toUInt64_eq, UInt64.toNat_ofNat', Nat.mod_eq_of_lt (by omega)]
  unfold build at h
  dsimp only at h
  rw [Program.runs_bind_iff] at h
  obtain ⟨allocating, last, allocated, rfl, ha, h⟩ := h
  obtain ⟨block', rfl, -, rfl⟩ | ⟨-, rfl, rfl⟩ :=
    Allocator.obtains_of_allocateArray Layout.small_queueFamily (by omega) ha
  · dsimp only at h
    rw [Program.runs_bind_iff] at h
    obtain ⟨building, last, result, rfl, hb, h⟩ := h
    cases result with
    | error error => cases h.2
    | ok all =>
      obtain ⟨rfl, h⟩ := h
      obtain ⟨rfl, rfl⟩ := Prod.mk.inj (Except.ok.inj h)
      obtain ⟨new, served, rfl, hholds, hrequests, hquestions⟩ := questions_of_buildRest hb
      refine ⟨served, hholds, hrequests, ?_⟩
      rw [Trace.queueQuestions_append, Trace.queueQuestions_append, Allocator.queueQuestions_obtainsArray, hquestions,
        List.nil_append, Trace.queueQuestions_nil, List.append_nil]
  · cases h.2

end QueueFamily

namespace Device

variable {physicalDevice native : NativeHandle} {parent allocator : Allocator} {info : DeviceInfo}
  {explicit : Option CallbackSet} {trace : Trace} {storage : Address}

theorem questions_of_createNative {block : Option Address} {built : List BuiltFamily}
    (hl : info.queues.toList.length < 2 ^ 32)
    (h : (createNative physicalDevice info allocator storage).Runs trace (.ok (native, block, built))) :
    ∃ served, List.Forall₂ (BuiltFamily.Holds storage) built served ∧
      served.map (·.toQueueRequest) = info.queues.toList ∧ trace.queueQuestions = served.flatMap (·.questions native) := by
  cases nativeSteps h with
  | @built native resolving building block built hr hb =>
    obtain ⟨served, hholds, hrequests, hquestions⟩ := QueueFamily.questions_of_build hl hb
    refine ⟨served, hholds, hrequests, ?_⟩
    rw [Trace.queueQuestions_append, Trace.queueQuestions_append, NativeLibrary.queueQuestions_requireAll hr, hquestions]
    rfl

theorem questions_of_build {result : BuiltDevice} (hl : info.queues.toList.length < 2 ^ 32)
    (h : (build physicalDevice parent info explicit).Runs trace (.ok result)) :
    ∃ storage native block built served,
      result = ⟨storage, new native (Allocator.merge explicit parent) block (built.map (·.family)), queueRecords built⟩ ∧
      List.Forall₂ (BuiltFamily.Holds storage) built served ∧ served.map (·.toQueueRequest) = info.queues.toList ∧
        trace.queueQuestions = served.flatMap (·.questions native) := by
  cases steps h with
  | @built asking creating storage native block built _ ha hc =>
    obtain ⟨served, hholds, hrequests, hquestions⟩ := questions_of_createNative hl hc
    refine ⟨storage, native, block, built, served, rfl, hholds, hrequests, ?_⟩
    obtain ⟨_, -, rfl⟩ | ⟨-, rfl⟩ := Allocator.asks_of_allocateObject sound_device ha
    all_goals
      rw [Trace.queueQuestions_append, Trace.queueQuestions_append, Allocator.queueQuestions_asks, hquestions, List.nil_append]
      exact List.append_nil _

/-- What cannot be created is not reported as a success. -/
theorem code_of_createNative {error : CallError} (hl : info.queues.toList.length < 2 ^ 32)
    (h : (createNative physicalDevice info allocator storage).Runs trace (.error error)) : error.result ≠ .success := by
  cases nativeSteps h with
  | refused code => exact code.property
  | @incomplete native resolving abandoning error hr ha =>
    obtain ⟨hfound, -⟩ | ⟨name, -, hfound, -⟩ := NativeLibrary.dealings_requireAll native hr
    · cases hfound
    cases hfound
    exact (by decide : ResultCode.initializationFailed ≠ .success)
  | unbuilt hr hb =>
    obtain ⟨_, _, hbuilt, -⟩ | ⟨hbuilt, -⟩ := QueueFamily.dealings_build hl hb
    · cases hbuilt
    cases hbuilt
    exact (by decide : ResultCode.outOfHostMemory ≠ .success)

theorem code_of_build {error : CallError} (hl : info.queues.toList.length < 2 ^ 32)
    (h : (build physicalDevice parent info explicit).Runs trace (.error error)) : error.result ≠ .success := by
  cases steps h with
  | unsupported hu =>
    obtain ⟨-, hrefused⟩ | ⟨-, -, hrefused⟩ | ⟨-, -, hrefused⟩ := CallError.ofUnsupported_cases info.layers info.extensions
    · obtain rfl := Option.some.inj (hu.symm.trans hrefused)
      exact (by decide : ResultCode.layerNotPresent ≠ .success)
    · obtain rfl := Option.some.inj (hu.symm.trans hrefused)
      exact (by decide : ResultCode.extensionNotPresent ≠ .success)
    · rw [hu] at hrefused
      cases hrefused
  | unrecorded _ ha =>
    obtain ⟨_, hstored, -⟩ | ⟨hstored, -⟩ := Allocator.asks_of_allocateObject sound_device ha
    · cases hstored
    cases hstored
    exact (by decide : ResultCode.outOfHostMemory ≠ .success)
  | undone _ _ hc _ => exact code_of_createNative hl hc

variable [Reckoning] {bridge after : Bridge} {handle : Option Handle} {wanted : Option DeviceInfo} {output : Bool}
  {stored : Option Handle} {places : List Address}

/-- A device that is created has asked for every queue and has a record of each, where there was none before. -/
theorem queues_of_create (hn : ¬Reckoning.strict) (hs : bridge.Sound) (ho : bridge.owned.Occupies places)
    (hf : trace.Fresh places) (hl : ∀ info ∈ wanted, info.queues.toList.length < 2 ^ 32)
    (h : (create handle wanted explicit output).Runs bridge trace (.success, stored) after) :
    ∃ info owner native allocator block built served, wanted = some info ∧ stored = some owner.toHandle ∧
      Apart bridge owner built ∧
      after = installed bridge owner (new native allocator block (built.map (·.family))) built ∧
      List.Forall₂ (BuiltFamily.Holds owner) built served ∧ served.map (·.toQueueRequest) = info.queues.toList ∧
        trace.queueQuestions = served.flatMap (·.questions native) := by
  unfold create at h
  split at h
  case h_2 =>
    obtain ⟨-, h, -⟩ := Action.runs_pure_iff.1 h
    cases h
  case h_1 info =>
  rw [Action.runs_bind_iff] at h
  obtain ⟨resolving, last, resolved, between, rfl, hresolve, h⟩ := h
  obtain ⟨rfl, -, ⟨_, found, -, rfl, rfl, -⟩ | ⟨rfl, -⟩⟩ := runs_resolve hresolve
  case inr =>
    obtain ⟨-, h, -⟩ := Action.runs_pure_iff.1 h
    cases h
  simp only [Action.runs_bind_iff, Action.runs_get_iff, Action.runs_lift_iff] at h
  obtain ⟨_, _, _, _, rfl, ⟨rfl, rfl, rfl⟩, building, last, built, _, rfl, ⟨hb, rfl⟩, h⟩ := h
  cases built with
  | error error =>
    simp only [Action.runs_bind_iff, Action.runs_lift_iff, Action.runs_pure_iff, Prod.mk.injEq] at h
    obtain ⟨_, _, _, _, rfl, -, -, ⟨hcode, -⟩, -⟩ := h
    exact absurd hcode (code_of_build (hl info rfl) hb)
  | ok result =>
  obtain ⟨storage, native, block, built, served, rfl, hholds, hrequests, hquestions⟩ := questions_of_build (hl info rfl) hb
  -- Where the new records lie follows from the memory that is obtained.
  obtain ⟨address, native', block', built', hbuilt, -, he⟩ | ⟨_, _, _, hbuilt, -⟩ :=
    runs_build (fun hs => absurd hs hn) (fun _ _ hs => absurd hs hn) (hl info rfl) hb
  case inr => cases hbuilt
  simp only [Except.ok.injEq, BuiltDevice.mk.injEq] at hbuilt
  obtain ⟨rfl, -, hqueues⟩ := hbuilt
  simp only [Action.runs_bind_iff, Action.runs_modify_iff, Action.runs_pure_iff, Prod.mk.injEq] at h
  obtain ⟨_, _, _, _, rfl, ⟨rfl, rfl⟩, rfl, ⟨-, rfl⟩, rfl⟩ := h
  simp only [List.nil_append, List.append_nil] at hf ⊢
  obtain ⟨hplace, hapart, houtside, hnodup⟩ := apart_new hs ho hf he
  rw [← hqueues] at hapart houtside hnodup
  exact ⟨info, storage, native, _, block, built, served, rfl, rfl, ⟨hplace, hapart, houtside, hnodup⟩, rfl, hholds, hrequests,
    hquestions⟩

end Device

/-! ## What a device offers -/

/-- The native queue that was given for a family and an index: the first request for the family counts. -/
def ServedRequest.native? (served : List ServedRequest) (family index : UInt32) : Option NativeHandle :=
  (served.find? (·.family = family)).bind (·.natives[index.toNat]?)

/-- A family has an array for its queues unless it has none, and the native queues that were given are in it. -/
structure QueueFamily.Offers (bridge : Bridge) (family : QueueFamily) (served : ServedRequest) : Prop where
  index : family.index = served.family
  count : family.count = served.count
  queues : family.queues.isSome ↔ served.count ≠ 0
  natives : ∀ place ∈ family.queues, ∃ records : Array Queue, bridge.blocks[place]? = some (.queues records) ∧
    records.toList.map (·.native) = served.natives

/-- A device has these families, with the native queues that were given. -/
structure Device.Offers (bridge : Bridge) (owner : Address) (families : List QueueFamily) (served : List ServedRequest) :
    Prop where
  found : ∃ device : Device, bridge.blocks[owner]? = some (.device device) ∧ device.families = families
  offers : List.Forall₂ (QueueFamily.Offers bridge) families served

/-- Lists that agree item by item agree in the first items at which two tests hold, if these tests agree. -/
theorem find?_of_forall₂ {α β : Type} {r : α → β → Prop} {p : α → Bool} {q : β → Bool} {items : List α} {others : List β}
    (h : List.Forall₂ r items others) (hpq : ∀ item other, r item other → p item = q other) :
    (items.find? p = none ∧ others.find? q = none) ∨
      ∃ item other, items.find? p = some item ∧ others.find? q = some other ∧ r item other := by
  induction h with
  | nil => exact .inl ⟨rfl, rfl⟩
  | @cons item other _ _ hr _ ih =>
    cases hp : p item with
    | true =>
      have hq : q other = true := hpq item other hr ▸ hp
      exact .inr ⟨item, other, List.find?_cons_of_pos hp, List.find?_cons_of_pos hq, hr⟩
    | false =>
      have hq : q other = false := hpq item other hr ▸ hp
      rw [List.find?_cons_of_neg (by simp [hp]), List.find?_cons_of_neg (by simp [hq])]
      exact ih

namespace Device

variable {device : Device} {families : List QueueFamily} {served : List ServedRequest} {family index : UInt32}

/-- Which queue is found depends on the families only. -/
theorem queue?_congr {other : Device} (h : other.families = device.families) (family index : UInt32) :
    other.queue? family index = device.queue? family index := by
  unfold queue?
  rw [h]

/-- A queue that is found lies in the array of the first family with the index. -/
theorem queue?_eq_some {queue : Handle} (h : device.queue? family index = some queue) :
    ∃ found, device.families.find? (·.index = family) = some found ∧ index < found.count ∧
      found.queues = some queue.block ∧ queue.slot = index.toNat := by
  unfold queue? at h
  obtain ⟨found, hfound, h⟩ := Option.bind_eq_some_iff.1 h
  split at h
  case isTrue hlt =>
    obtain ⟨block, hblock, rfl⟩ := Option.map_eq_some_iff.1 h
    exact ⟨found, hfound, hlt, hblock, rfl⟩
  case isFalse => cases h

/-- Queues of a family and an index are told apart by where their records lie. -/
theorem queue?_inj {family' index' : UInt32} {queue : Handle} (hn : (device.families.filterMap (·.queues)).Nodup)
    (h : device.queue? family index = some queue) (h' : device.queue? family' index' = some queue) :
    family = family' ∧ index = index' := by
  obtain ⟨found, hfound, -, hqueues, hslot⟩ := queue?_eq_some h
  obtain ⟨found', hfound', -, hqueues', hslot'⟩ := queue?_eq_some h'
  have : Std.Symm fun found other : QueueFamily =>
      ∀ block, found.queues = some block → ∀ block', other.queues = some block' → block ≠ block' :=
    ⟨fun _ _ h _ hq _ hq' => (h _ hq' _ hq).symm⟩
  obtain rfl : found = found' := by
    by_contra hne
    exact (List.pairwise_filterMap.1 hn).forall (List.mem_of_find?_eq_some hfound) (List.mem_of_find?_eq_some hfound') hne
      _ hqueues _ hqueues' rfl
  constructor
  · have := List.find?_some hfound
    have := List.find?_some hfound'
    simp_all
  · rw [← UInt32.toNat_inj, ← hslot, hslot']

variable {bridge after : Bridge} {owner : Address}

namespace Offers

/-- The first family with an index and the first request that was served for it. -/
theorem find? (h : Offers bridge owner families served) (family : UInt32) :
    (families.find? (·.index = family) = none ∧ served.find? (·.family = family) = none) ∨
      ∃ found request, families.find? (·.index = family) = some found ∧ served.find? (·.family = family) = some request ∧
        found.Offers bridge request :=
  find?_of_forall₂ h.offers fun found request ho => by rw [ho.index]

/-- A queue is found if the first request for its family asked for it. -/
theorem isSome_queue?_iff (h : Offers bridge owner device.families served) :
    (device.queue? family index).isSome ↔
      ∃ request ∈ (served.map (·.toQueueRequest)).find? (·.family = family), index < request.count := by
  rw [List.find?_map, Function.comp_def]
  unfold queue?
  rcases h.find? family with ⟨hnone, hnone'⟩ | ⟨found, request, hfound, hrequest, ho⟩
  · rw [hnone, hnone']
    simp
  · rw [hfound, hrequest]
    by_cases hlt : index < request.count
    · have hz : request.count ≠ 0 := by
        intro hz
        rw [hz] at hlt
        exact UInt32.not_lt_zero hlt
      simp [ho.count, hlt, ho.queues.2 hz]
    · simp [ho.count, hlt]

/-- The record of a queue that is found belongs to the device and has the native queue that was given. -/
theorem record_of_queue? [Reckoning] {queue : Handle} (h : Offers bridge owner device.families served) (hs : bridge.Sound)
    (hq : device.queue? family index = some queue) :
    ∃ record : Queue, bridge.record? .queue queue = some record ∧ record.device = owner ∧
      ServedRequest.native? served family index = some record.native := by
  obtain ⟨found, hfound, hlt, hblock, hslot⟩ := queue?_eq_some hq
  rcases h.find? family with ⟨hnone, -⟩ | ⟨found', request, hfound', hrequest, ho⟩
  · rw [hfound] at hnone
    cases hnone
  obtain rfl := Option.some.inj (hfound.symm.trans hfound')
  obtain ⟨records, hrecords, hnatives⟩ := ho.natives queue.block hblock
  have hlength : queue.slot < records.size := by
    rw [← Array.length_toList, ← List.length_map, hnatives, request.complete, ← ho.count, hslot]
    exact UInt32.lt_iff_toNat_lt.1 hlt
  obtain ⟨other, hb, hfamilies⟩ := h.found
  have hm : found ∈ other.families := hfamilies ▸ List.mem_of_find?_eq_some hfound
  obtain ⟨others, hothers, hall⟩ := Device.Sound.queueBlocks (hs owner _ hb) found hm queue.block hblock
  obtain rfl : records = others := by simpa using hrecords.symm.trans hothers
  refine ⟨records[queue.slot], ?_, (hall _ (Array.getElem_mem hlength)).2, ?_⟩
  · simp [Bridge.record?, hrecords, Block.record?, hlength]
  · rw [ServedRequest.native?, hrequest, Option.bind_some, ← hnatives, ← hslot]
    simp [hlength]

/-- A look-up tells the log of a queue that was not requested, and does nothing else. -/
theorem tells_getQueue {native : NativeHandle} {allocator : Allocator} {block : Option Address} [Reckoning]
    (h : Offers bridge owner families served) (hs : bridge.Sound) (family index : UInt32) :
    (getQueue (some owner.toHandle) family index true).Tells bridge
      (if ((new native allocator block families).queue? family index).isSome then [] else [.queueNotRequested family index])
      (some ((new native allocator block families).queue? family index)) := by
  obtain ⟨device, hb, hfamilies⟩ := h.found
  rw [← queue?_congr (show device.families = (new native allocator block families).families from hfamilies) family index]
  refine (hs.tagged.tells_resolve (Bridge.record?_device_iff.2 ⟨rfl, hb⟩)).bind ?_
  dsimp only
  cases device.queue? family index with
  | some queue => exact Action.tells_pure bridge _
  | none => exact (Action.tells_notice bridge _).bind (Action.tells_pure bridge _)

/-! ### As long as the device lives -/

theorem like (h : Offers bridge owner families served) (hl : bridge.Like after) : Offers after owner families served where
  found := by
    obtain ⟨device, hb, hfamilies⟩ := h.found
    obtain ⟨header, ha⟩ := hl.device hb
    exact ⟨_, ha, hfamilies⟩
  offers := h.offers.imp fun family request ho => by
    refine ⟨ho.index, ho.count, ho.queues, fun place hp => ?_⟩
    obtain ⟨records, hrecords, hnatives⟩ := ho.natives place hp
    obtain ⟨other, hother, hlike⟩ := hl.found place _ hrecords
    obtain ⟨others, rfl, -⟩ := hlike.queues
    refine ⟨others, hother, ?_⟩
    rw [← hnatives]
    apply List.ext_getElem?
    intro i
    rw [List.getElem?_map, List.getElem?_map, Array.getElem?_toList, Array.getElem?_toList]
    exact hlike.native .queue i

/-- An event leaves what a device offers, unless it destroys the device. -/
theorem step [Reckoning] {device : Device} (h : Offers bridge owner families served) (ht : bridge.Transition after)
    (hs : after.Sound) (ha : after.blocks[owner]? = some (.device device)) : Offers after owner families served := by
  obtain ⟨old, hb, rfl⟩ := h.found
  have hfamilies := (ht.same_device hb ha).families
  refine ⟨⟨device, ha, hfamilies⟩, ?_⟩
  have hall : ∀ family ∈ old.families, ∀ place ∈ family.queues, ∀ records : Array Queue,
      bridge.blocks[place]? = some (.queues records) → after.blocks[place]? = some (.queues records) := by
    intro family hm place hp records hrecords
    obtain ⟨others, hothers, -⟩ := Device.Sound.queueBlocks (hs owner _ ha) family (hfamilies ▸ hm) place hp
    rw [hothers, ht.steady.eq hrecords trivial hothers]
  have hoffers := h.offers
  clear h
  generalize old.families = families at hall hoffers
  induction hoffers with
  | nil => exact .nil
  | cons ho _ ih =>
    obtain ⟨hfirst, hrest⟩ := List.forall_mem_cons.1 hall
    refine .cons ⟨ho.index, ho.count, ho.queues, fun place hp => ?_⟩ (ih hrest)
    obtain ⟨records, hrecords, hnatives⟩ := ho.natives place hp
    exact ⟨records, hfirst place hp records hrecords, hnatives⟩

/-- A device that was just created offers what it was given. -/
theorem of_installed {built : List BuiltFamily} (record : Device) (hapart : Apart bridge owner built)
    (hholds : List.Forall₂ (BuiltFamily.Holds owner) built served) (hr : record.families = built.map (·.family)) :
    Offers (installed bridge owner record built) owner (built.map (·.family)) served where
  found := ⟨record, hapart.found record, hr⟩
  offers := by
    rw [List.forall₂_map_left_iff]
    have hplaces : ∀ entry ∈ built, ∀ place ∈ entry.family.queues,
        (installed bridge owner record built).blocks[place]? = some (.queues entry.queues) := by
      intro entry hm place hp
      refine Bridge.blocks_putQueues hapart.nodup (List.mem_filterMap.2 ⟨entry, hm, ?_⟩)
      rw [Option.mem_def.1 hp, Option.map_some]
    clear hapart hr
    generalize installed bridge owner record built = made at hplaces
    induction hholds with
    | nil => exact .nil
    | @cons entry request _ _ hentry _ ih =>
      obtain ⟨hfirst, hrest⟩ := List.forall_mem_cons.1 hplaces
      refine .cons ⟨hentry.index, hentry.count, hentry.queues, fun place hp => ⟨_, hfirst place hp, ?_⟩⟩ (ih hrest)
      rw [hentry.records, List.map_map]
      exact List.map_id _

variable {history : List Event} {before : Bridge}

/-- A device offers the same queues as long as it is not destroyed. -/
theorem continues [Reckoning] {later : List Event} {between : Bridge} (hn : ¬Reckoning.strict)
    (h : Attains Event.Proper history before) (ho : Offers before owner families served)
    (hc : Continues Event.Proper history before later between)
    (hlater : ∀ event ∈ later, ∀ explicit, event.call ≠ .destroyDevice (some owner.toHandle) explicit) :
    Offers between owner families served := by
  refine (Continues.preserves (Offers · owner families served) _ (fun _ => True) hn h hc ho
    (fun _ _ _ houtcome hk ht hevent hbetween => ⟨?_, trivial⟩) (fun hl hbetween => hbetween.like hl) hlater).1
  obtain ⟨device, hb, -⟩ := hbetween.found
  obtain ⟨changed, hchanged⟩ := houtcome.leaves_device hk hb hevent
  exact hbetween.step ht hk.sound hchanged

end Offers

end Device

/-! ## The queues of a device -/

section Use

variable {history : List Event} {before after : Bridge} {handle : Option Handle} {wanted : Option DeviceInfo}
  {explicit : Option CallbackSet} {output : Bool} {trace : Trace} {stored : Option Handle}

/-- A creation that succeeds has asked the native device for each queue that was requested, once and in order. From then on,
whatever is called and whatever the loader writes until the device is destroyed, a queue is found by its family and index if
the first request for the family asked for more queues than the index. It is found without a question to anyone, it is the
same queue every time and no other family and index find it, and its record belongs to the device and has the native queue
that was given for them. -/
theorem queues_as_requested (h : Attains Event.Proper history before)
    (ha : Event.Proper history ⟨.createDevice handle wanted explicit output, trace, (.success, stored)⟩)
    (hl : Event.Leads before ⟨.createDevice handle wanted explicit output, trace, (.success, stored)⟩ after) :
    ∃ info owner native served, ∃ lookup : UInt32 → UInt32 → Option Handle,
      wanted = some info ∧ stored = some owner.toHandle ∧
      (after.record? .device owner.toHandle).map (·.native) = some native ∧
      served.map (·.toQueueRequest) = info.queues.toList ∧
      trace.queueQuestions = served.flatMap (·.questions native) ∧
      (∀ family index, (lookup family index).isSome ↔
        ∃ request ∈ info.queues.toList.find? (·.family = family), index < request.count) ∧
      (∀ family index family' index' queue, lookup family index = some queue → lookup family' index' = some queue →
        family = family' ∧ index = index') ∧
      ∀ later between,
        Continues Event.Proper (⟨.createDevice handle wanted explicit output, trace, (.success, stored)⟩ :: history) after
          later between →
        (∀ event ∈ later, ∀ explicit, event.call ≠ .destroyDevice (some owner.toHandle) explicit) →
        ∀ family index,
          (Device.getQueue (some owner.toHandle) family index true).Tells between
            (if (lookup family index).isSome then [] else [.queueNotRequested family index]) (some (lookup family index)) ∧
          ∀ queue ∈ lookup family index, ∃ record : Queue, between.record? .queue queue = some record ∧
            record.device = owner ∧ ServedRequest.native? served family index = some record.native := by
  let _ : Reckoning := ⟨False⟩
  have hs : Settled history before := h.settled_of_proper id
  have hafter := h.step ha hl
  obtain ⟨info, owner, native, allocator, block, built, served, rfl, rfl, hapart, rfl, hholds, hrequests, hquestions⟩ :=
    Device.queues_of_create id hs.sound hs.occupies ha.fresh
      (by rintro info ⟨⟩; exact ha.queues _ _ _ _ rfl) hl
  have hnew := hapart.found (.new native allocator block (built.map (·.family)))
  have hoffers := Device.Offers.of_installed (.new native allocator block (built.map (·.family))) hapart hholds rfl
  refine ⟨info, owner, native, served, (Device.new native allocator block (built.map (·.family))).queue?, rfl, rfl, ?_,
    hrequests, hquestions, fun family index => ?_, fun family index family' index' queue => ?_, ?_⟩
  · rw [Bridge.record?_device_iff.2 ⟨rfl, hnew⟩]
    rfl
  · rw [← hrequests]
    exact hoffers.isSome_queue?_iff
  · apply Device.queue?_inj
    have := hapart.nodup
    rwa [Device.addresses_queueRecords] at this
  · intro later between hc hlater family index
    have hbetween := hoffers.continues id hafter hc hlater
    have hs' : Settled _ between := (hafter.continues hc).settled_of_proper id
    refine ⟨hbetween.tells_getQueue hs'.sound family index, fun queue hq => ?_⟩
    exact hbetween.record_of_queue? hs'.sound hq

end Use

/-! ## Families that are out of order -/

namespace Sample

/-- A family that is requested twice, one without queues, and one that comes last. -/
def unordered : DeviceInfo := ⟨0, 0, .present [⟨2, 1⟩, ⟨0, 0⟩, ⟨2, 3⟩, ⟨1, 2⟩]⟩

/-- What the creation of a device with these families comes to: the trace, the answer and the state. -/
def unorderedCreation : Trace × (ResultCode × Option Handle) × Bridge :=
  ((Device.create (some physicalDevice) (some unordered) none true).run (session .obliging listed).2).play .obliging
    (traceOf (session .obliging listed).1).length

/-- The creation as an event that succeeds. -/
def unorderedDevice : Event :=
  ⟨.createDevice (some physicalDevice) (some unordered) none true, unorderedCreation.1, (.success, unorderedCreation.2.1.2)⟩

/-- A pool on the device. -/
def unorderedPool : Event × Bridge :=
  (Call.createPool unorderedCreation.2.1.2 (some ⟨1, 0⟩) none).play .obliging
    (traceOf (unorderedDevice :: (session .obliging listed).1)).length unorderedCreation.2.2

theorem leads_unorderedDevice : unorderedDevice.Leads (session .obliging listed).2 unorderedCreation.2.2 := by
  have hcode : unorderedCreation.2.1 = (.success, unorderedCreation.2.1.2) := Prod.ext (by decide +kernel) rfl
  have hr : (Device.create (some physicalDevice) (some unordered) none true).Runs (session .obliging listed).2
      unorderedCreation.1 unorderedCreation.2.1 unorderedCreation.2.2 := Program.runs_play .obliging _ _
  rwa [hcode] at hr

end Sample

/-- The second queue of the last family is found once there is a pool and the loader has written to its record. The second
queue of the family that was requested twice is not found, although the second request asked for it. -/
theorem queues_as_requested_unordered :
    Attains Event.Proper (session .obliging Sample.listed).1 (session .obliging Sample.listed).2 ∧
    Sample.unorderedDevice.Proper (session .obliging Sample.listed).1 ∧
    Sample.unorderedDevice.Leads (session .obliging Sample.listed).2 Sample.unorderedCreation.2.2 ∧
    ∃ (owner : Address) (queue : Handle) (record : Queue), Sample.unorderedCreation.2.1.2 = some owner.toHandle ∧
      let between := Sample.unorderedPool.2.load queue 7
      (Device.getQueue (some owner.toHandle) 2 1 true).Tells between [.queueNotRequested 2 1] (some none) ∧
      (Device.getQueue (some owner.toHandle) 1 1 true).Tells between [] (some (some queue)) ∧
      between.record? .queue queue = some record ∧ record.device = owner := by
  have hattains : Attains Event.Proper (session .obliging Sample.listed).1 (session .obliging Sample.listed).2 :=
    attains_session (by decide +kernel)
  have hcreate : Sample.unorderedDevice.ProperForSure (session .obliging Sample.listed).1 := by decide +kernel
  have hpool : Sample.unorderedPool.1.ProperForSure (Sample.unorderedDevice :: (session .obliging Sample.listed).1) := by
    decide +kernel
  have hleads : Sample.unorderedPool.1.Leads Sample.unorderedCreation.2.2 Sample.unorderedPool.2 := Call.leads_play ..
  obtain ⟨info, owner, native, served, lookup, hinfo, hstored, -, -, -, hfound, -, hlater⟩ :=
    queues_as_requested hattains hcreate.proper Sample.leads_unorderedDevice
  obtain rfl := Option.some.inj hinfo
  have hnone : lookup 2 1 = none := by
    rw [← Option.not_isSome_iff_eq_none, hfound]
    decide
  obtain ⟨queue, hqueue⟩ := Option.isSome_iff_exists.1 ((hfound 1 1).2 (by decide))
  have hall := hlater [Sample.unorderedPool.1] _ (.load queue 7 (.step .here hpool.proper hleads)) <| by
    intro event hm explicit
    rw [List.mem_singleton.1 hm]
    exact nofun
  obtain ⟨hmissed, -⟩ := hall 2 1
  obtain ⟨htold, hrecord⟩ := hall 1 1
  obtain ⟨record, hrecord, howner, -⟩ := hrecord queue hqueue
  rw [hnone] at hmissed
  rw [hqueue] at htold
  exact ⟨hattains, hcreate.proper, Sample.leads_unorderedDevice, owner, queue, record, hstored, hmissed, htold, hrecord, howner⟩

end VulkanBridge
