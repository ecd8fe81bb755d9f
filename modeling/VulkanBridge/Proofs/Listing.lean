import VulkanBridge.Proofs.Loader
import VulkanBridge.Proofs.Storage
/-!
# What a listing of physical devices reports

A listing is `Truthful` if a code that is no error comes with a count and handles that are right, and if a call that
stores nothing reports an error. The physical devices of an instance are those it has records of
(`Bridge.physicalDevicesAt`).

The driver asks two questions of the native driver before the first listing, and takes every code but success for an
error, which it reports as it is. A native driver may also answer with a code that is no error, for instance that the
handles it has listed are not all there are. The listing is truthful exactly if it does not
(`listing_truthful_iff`).
-/

namespace VulkanBridge

/-- The handles of the physical devices of an instance, in order. -/
def Bridge.physicalDevicesAt (bridge : Bridge) (handle : Option Handle) : List Handle :=
  ((handle.bind (bridge.record? .inst)).bind (·.physicalDevices)).elim [] fun array =>
    match bridge.blocks[array.block]? with
    | some (.physicalDevices records) => (List.range records.size).map (⟨array.block, ·⟩)
    | _ => []

/-- A listing tells the truth about these physical devices, where `intoArray` says whether there is an array for the
handles. -/
structure Listing.Truthful (listing : Listing) (devices : List Handle) (intoArray : Bool) : Prop where
  /-- The count is that of all devices, or of the handles that are stored. -/
  counted : listing.result = .success ∨ listing.result = .incomplete → ∃ count, listing.count = some count ∧
    count.toNat = if intoArray then listing.handles.length else devices.length
  /-- The handles are the first of those there are, and stored only where there is an array. -/
  stored : listing.result = .success ∨ listing.result = .incomplete →
    listing.handles <+: devices ∧ (intoArray = false → listing.handles = [])
  incomplete : listing.result = .incomplete → listing.handles.length < devices.length
  failed : listing.count = none → listing.handles = [] → listing.result.value < 0

/-- The native driver answers a question about physical devices with a code that is neither success nor an error. -/
def Exchange.isQualified : Exchange → Bool
  | ⟨.native (.countPhysicalDevices _), .error code⟩ => 0 < code.val.value
  | ⟨.native (.listPhysicalDevices ..), .error code⟩ => 0 < code.val.value
  | _ => false

/-- No question about physical devices is answered with a code that is neither success nor an error. -/
def Trace.Unqualified (trace : Trace) : Prop := ∀ exchange ∈ trace, exchange.isQualified = false

namespace Trace

@[simp] theorem unqualified_nil : Unqualified [] := by simp [Unqualified]

@[simp] theorem unqualified_cons_iff {exchange : Exchange} {rest : Trace} :
    Unqualified (exchange :: rest) ↔ exchange.isQualified = false ∧ Unqualified rest := by
  simp [Unqualified]

@[simp] theorem unqualified_append_iff {first last : Trace} :
    Unqualified (first ++ last) ↔ first.Unqualified ∧ last.Unqualified := by
  simp only [Unqualified, List.mem_append]
  constructor
  · exact fun h => ⟨fun exchange hm => h exchange (.inl hm), fun exchange hm => h exchange (.inr hm)⟩
  · rintro ⟨hf, hl⟩ exchange (hm | hm)
    · exact hf exchange hm
    · exact hl exchange hm

end Trace

namespace Allocator

variable (allocator : Allocator) (layout : Layout)

theorem unqualified_asks (scope : Scope) (answer : Option Address) :
    (allocator.asks layout scope answer).Unqualified :=
  allocator.forall_mem_asks (fun _ _ => rfl) rfl

theorem unqualified_returns (address : Address) : (allocator.returns layout address).Unqualified :=
  allocator.forall_mem_returns (fun _ _ => rfl) rfl

variable {allocator} {element : Layout} {capacity : UInt32} {scope : Scope} {trace : Trace}

/-- What an allocator is asked for an array is never qualified, and it has no error but that there is no memory. -/
theorem unqualified_of_allocateElements {result : Except CallError Address} (he : element.Small) (hz : capacity ≠ 0)
    (h : (allocator.allocateElements element capacity.toUInt64 scope).Runs trace result) :
    trace.Unqualified ∧ ∀ error, result = .error error → error = .outOfHostMemory := by
  obtain ⟨_, rfl, rfl⟩ | ⟨rfl, rfl⟩ := asks_of_allocateElements he (toUInt64_ne_zero hz) (toNat_toUInt64_lt capacity) h
  · exact ⟨allocator.unqualified_asks _ scope _, nofun⟩
  · exact ⟨allocator.unqualified_asks _ scope _, fun _ he => (Except.error.inj he).symm⟩

theorem unqualified_of_freeArray {block : Address} {result : Unit} (he : element.Small) (hz : capacity ≠ 0)
    (h : (allocator.freeArray element capacity.toUInt64 (some block)).Runs trace result) : trace.Unqualified := by
  rw [returns_of_freeArray he (toNat_toUInt64_lt capacity) (fun _ => toUInt64_ne_zero hz) h]
  exact allocator.unqualified_returns _ block

end Allocator

namespace Instance

variable {inst : Instance} {trace : Trace}

/-- The devices are found, there are none, there is no memory for them, or the native driver answers with another code
than success, which then is the outcome. -/
theorem runs_discover_exactly {result : Except CallError (Option (PhysicalDeviceArray × List NativeHandle))}
    (h : inst.discover.Runs trace result) :
    (((∃ found, result = .ok found) ∨ result = .error .outOfHostMemory) ∧ trace.Unqualified) ∨
      ∃ code : FailureCode, result = .error (.native code) ∧ (trace.Unqualified ↔ ¬0 < code.val.value) := by
  -- Only the two answers of the native driver can be qualified. What is asked of the allocator in between never is.
  have counted (capacity : UInt32) :
      (Exchange.native (.countPhysicalDevices inst.native) (.ok capacity)).isQualified = false := rfl
  cases discovers h with
  | uncounted code => exact .inr ⟨code, rfl, by simp [Exchange.native, Exchange.isQualified]⟩
  | nothing => exact .inl ⟨.inl ⟨none, rfl⟩, by simp [counted]⟩
  | noScratch hz hs =>
    obtain ⟨hs, he⟩ := Allocator.unqualified_of_allocateElements Layout.small_nativeHandle hz hs
    exact .inl ⟨.inr (congrArg Except.error (he _ rfl)), by simp [counted, hs]⟩
  | noArray hz hs ha hd =>
    obtain ⟨hs, -⟩ := Allocator.unqualified_of_allocateElements Layout.small_nativeHandle hz hs
    obtain ⟨ha, he⟩ := Allocator.unqualified_of_allocateElements Layout.small_physicalDevice hz ha
    have hd := Allocator.unqualified_of_freeArray Layout.small_nativeHandle hz hd
    exact .inl ⟨.inr (congrArg Except.error (he _ rfl)), by simp [counted, hs, ha, hd]⟩
  | unlisted code hz hs ha hd hd' =>
    obtain ⟨hs, -⟩ := Allocator.unqualified_of_allocateElements Layout.small_nativeHandle hz hs
    obtain ⟨ha, -⟩ := Allocator.unqualified_of_allocateElements Layout.small_physicalDevice hz ha
    have hd := Allocator.unqualified_of_freeArray Layout.small_physicalDevice hz hd
    have hd' := Allocator.unqualified_of_freeArray Layout.small_nativeHandle hz hd'
    exact .inr ⟨code, rfl, by simp [hs, ha, hd, hd', Exchange.native, Exchange.isQualified]⟩
  | @listed capacity _ _ _ _ _ handles hz hs ha hd =>
    obtain ⟨hs, -⟩ := Allocator.unqualified_of_allocateElements Layout.small_nativeHandle hz hs
    obtain ⟨ha, -⟩ := Allocator.unqualified_of_allocateElements Layout.small_physicalDevice hz ha
    have hd := Allocator.unqualified_of_freeArray Layout.small_nativeHandle hz hd
    have listed : (Exchange.native (.listPhysicalDevices inst.native capacity) (.ok handles)).isQualified = false := rfl
    exact .inl ⟨.inl ⟨_, rfl⟩, by simp [counted, hs, ha, listed, hd]⟩

variable {before after : Bridge} {address : Address}

/-- The instance has the devices that are obtained, or there is no memory for them, or the native driver answers with
another code than success. -/
theorem runs_obtainPhysicalDevices {result : Except CallError (Option PhysicalDeviceArray)}
    (hb : before.blocks[address]? = some (.inst inst))
    (h : (obtainPhysicalDevices address inst).Runs before trace result after) :
    (∃ record : Instance, result = .ok record.physicalDevices ∧ after.blocks[address]? = some (.inst record) ∧
        trace.Unqualified) ∨
      (result = .error .outOfHostMemory ∧ trace.Unqualified) ∨
      ∃ code : FailureCode, result = .error (.native code) ∧ (trace.Unqualified ↔ ¬0 < code.val.value) := by
  unfold obtainPhysicalDevices at h
  split at h
  case h_1 array harray =>
    obtain ⟨rfl, rfl, rfl⟩ := Action.runs_pure_iff.1 h
    exact .inl ⟨inst, by rw [harray], hb, Trace.unqualified_nil⟩
  case h_2 hnone =>
    rw [Action.runs_bind_iff] at h
    obtain ⟨discovering, last, discovered, between, rfl, hd, h⟩ := h
    obtain ⟨hdiscover, rfl⟩ := Action.runs_lift_iff.1 hd
    obtain ⟨⟨found, rfl⟩ | rfl, hu⟩ | ⟨code, rfl, hu⟩ := runs_discover_exactly hdiscover
    · cases found with
      | none =>
        obtain ⟨rfl, rfl, rfl⟩ := Action.runs_pure_iff.1 h
        exact .inl ⟨inst, by rw [hnone], hb, by simpa using hu⟩
      | some found =>
        simp only [Action.runs_bind_iff, Action.runs_modify_iff, Action.runs_pure_iff] at h
        obtain ⟨_, _, _, _, rfl, ⟨rfl, rfl⟩, _, _, _, _, rfl, ⟨rfl, rfl⟩, rfl, rfl, rfl⟩ := h
        exact .inl ⟨{ inst with physicalDevices := some found.1 }, rfl, Bridge.blocks_put_self, by simpa using hu⟩
    · obtain ⟨rfl, rfl, rfl⟩ := Action.runs_pure_iff.1 h
      exact .inr (.inl ⟨rfl, by simpa using hu⟩)
    · obtain ⟨rfl, rfl, rfl⟩ := Action.runs_pure_iff.1 h
      exact .inr (.inr ⟨code, rfl, by simpa using hu⟩)

/-- The handles of the records in an array. -/
def handles (array : Option PhysicalDeviceArray) : List Handle :=
  array.elim [] fun array => (List.range array.count.toNat).map (⟨array.block, ·⟩)

/-- What a listing reports once the array of physical devices is there. -/
def report (capacity : UInt32) (intoArray : Bool) (array : Option PhysicalDeviceArray) : Listing :=
  let total := array.elim 0 (·.count)
  if !intoArray then ⟨.success, some total, []⟩
  else
    let written := if capacity < total then capacity else total
    ⟨if written < total then .incomplete else .success, some written,
      array.elim [] fun array => (List.range written.toNat).map (⟨array.block, ·⟩)⟩

theorem length_handles (array : Option PhysicalDeviceArray) :
    (handles array).length = (array.elim 0 (·.count) : UInt32).toNat := by
  cases array with
  | none => rfl
  | some array => simp [handles]

theorem handles_initial (block : Address) {written total : Nat} (h : written ≤ total) :
    (List.range written).map (Handle.mk block) <+: (List.range total).map (Handle.mk block) := by
  have : (List.range written).map (Handle.mk block) = ((List.range total).map (Handle.mk block)).take written := by
    rw [← List.map_take, List.take_range, Nat.min_eq_left h]
  rw [this]
  exact List.take_prefix ..

/-- The report is made of the handles in the array. -/
theorem report_truthful (capacity : UInt32) (intoArray : Bool) (array : Option PhysicalDeviceArray) :
    (report capacity intoArray array).Truthful (handles array) intoArray := by
  cases intoArray with
  | false =>
    exact ⟨fun _ => ⟨_, rfl, (length_handles array).symm⟩, fun _ => ⟨List.nil_prefix, fun _ => rfl⟩, nofun, nofun⟩
  | true =>
    cases array with
    | none =>
      have hzero : ¬capacity < 0 := by simp
      have : report capacity true none = ⟨.success, some 0, []⟩ := by simp [report]
      rw [this]
      exact ⟨fun _ => ⟨0, rfl, rfl⟩, fun _ => ⟨List.nil_prefix, fun _ => rfl⟩, nofun, nofun⟩
    | some array =>
      by_cases h : capacity < array.count
      · have : report capacity true (some array) =
            ⟨.incomplete, some capacity, (List.range capacity.toNat).map (⟨array.block, ·⟩)⟩ := by simp [report, h]
        rw [this]
        rw [UInt32.lt_iff_toNat_lt] at h
        exact ⟨fun _ => ⟨capacity, rfl, by simp⟩, fun _ => ⟨handles_initial array.block h.le, nofun⟩,
          fun _ => by simpa [handles] using h, nofun⟩
      · have : report capacity true (some array) =
            ⟨.success, some array.count, (List.range array.count.toNat).map (⟨array.block, ·⟩)⟩ := by simp [report, h]
        rw [this]
        exact ⟨fun _ => ⟨array.count, rfl, by simp⟩, fun _ => ⟨handles_initial array.block le_rfl, nofun⟩, nofun, nofun⟩

/-- A listing reports what the record of the instance tells of, or a code and nothing else. That code is neither success
nor an error exactly if the native driver has answered so. -/
theorem runs_enumerate_exactly [Reckoning] {handle : Option Handle} {count : Option UInt32} {intoArray : Bool}
    {listing : Listing} (hs : before.Sound)
    (h : (enumeratePhysicalDevices handle count intoArray).Runs before trace listing after) :
    (∃ (owner : Address) (record : Instance) (capacity : UInt32), handle = some owner.toHandle ∧
        after.blocks[owner]? = some (.inst record) ∧ listing = report capacity intoArray record.physicalDevices ∧
          trace.Unqualified) ∨
      ∃ code : FailureCode, listing = ⟨code.val, none, []⟩ ∧ (trace.Unqualified ↔ ¬0 < code.val.value) := by
  have failing (code : ResultCode) (hne : code ≠ .success) (hneg : ¬0 < code.value) (hu : trace.Unqualified)
      (hl : listing = ⟨code, none, []⟩) :
      ∃ code : FailureCode, listing = ⟨code.val, none, []⟩ ∧ (trace.Unqualified ↔ ¬0 < code.val.value) :=
    ⟨⟨code, hne⟩, hl, iff_of_true hu hneg⟩
  unfold enumeratePhysicalDevices at h
  cases count with
  | none =>
    obtain ⟨rfl, rfl, -⟩ := Action.runs_pure_iff.1 h
    exact .inr (failing .initializationFailed (by decide) (by decide) Trace.unqualified_nil rfl)
  | some capacity =>
  dsimp only at h
  rw [Action.runs_bind_iff] at h
  obtain ⟨resolving, last, resolved, between, rfl, hresolve, h⟩ := h
  have hnotices : resolving.Unqualified := by
    intro exchange hm
    obtain ⟨notice, rfl⟩ := notices_of_resolve hresolve exchange hm
    rfl
  obtain ⟨rfl, ⟨owner, record, rfl, hb, rfl, -⟩ | ⟨-, rfl, -⟩⟩ := hs.runs_resolve hresolve rfl
  · dsimp only at h
    rw [Action.runs_bind_iff] at h
    obtain ⟨obtaining, last, obtained, between, rfl, hobtain, h⟩ := h
    obtain ⟨record, rfl, ha, hu⟩ | ⟨rfl, hu⟩ | ⟨code, rfl, hu⟩ := runs_obtainPhysicalDevices hb hobtain
    · have hreport : last = [] ∧ report capacity intoArray record.physicalDevices = listing ∧ between = after := by
        unfold report
        dsimp only at h
        split at h
        case isTrue hno => rw [if_pos hno]; exact Action.runs_pure_iff.1 h
        case isFalse hno => rw [if_neg hno]; exact Action.runs_pure_iff.1 h
      obtain ⟨rfl, rfl, rfl⟩ := hreport
      exact .inl ⟨owner, record, capacity, rfl, ha, rfl, by simp [hnotices, hu]⟩
    · obtain ⟨rfl, rfl, -⟩ := Action.runs_pure_iff.1 h
      exact .inr (failing .outOfHostMemory (by decide) (by decide) (by simp [hnotices, hu]) rfl)
    · obtain ⟨rfl, rfl, -⟩ := Action.runs_pure_iff.1 h
      exact .inr ⟨code, rfl, by simp [hnotices, hu]⟩
  · obtain ⟨rfl, rfl, -⟩ := Action.runs_pure_iff.1 h
    exact .inr (failing .initializationFailed (by decide) (by decide) (by simp [hnotices]) rfl)

end Instance

/-! ## Listings after any use -/

section Use

variable {history : List Event} {bridge before after : Bridge} {owner : Address} {trace : Trace}

/-- The physical devices are those that the record of the instance tells of. -/
theorem Bridge.physicalDevicesAt_eq [Reckoning] {record : Instance} (hs : bridge.Sound) (hfull : bridge.Full)
    (hb : bridge.blocks[owner]? = some (.inst record)) :
    bridge.physicalDevicesAt (some owner.toHandle) = Instance.handles record.physicalDevices := by
  have hrecord : bridge.record? .inst owner.toHandle = some record := Bridge.record?_inst_iff.2 ⟨rfl, hb⟩
  unfold Bridge.physicalDevicesAt
  rw [Option.bind_some, hrecord, Option.bind_some]
  cases harray : record.physicalDevices with
  | none => rfl
  | some array =>
    obtain ⟨records, hrecords, -⟩ := Instance.Sound.listed (hs owner _ hb) array harray
    simp only [Option.elim_some, hrecords, Instance.handles]
    rw [hfull.physicalDevices owner record array records hb harray hrecords]

/-- A code that is not zero is negative unless it is positive. -/
theorem Int32.neg_iff_not_pos {code : Int32} (h : code ≠ 0) : code < 0 ↔ ¬0 < code := by
  have : code.toInt ≠ (0 : Int32).toInt := fun he => h (Int32.toInt_inj.1 he)
  rw [Int32.lt_iff_toInt_lt, Int32.lt_iff_toInt_lt]
  omega

/-- An error that comes with nothing is truthful, whatever devices there are. -/
theorem Listing.truthful_of_neg {code : ResultCode} (h : code.value < 0) (devices : List Handle) (intoArray : Bool) :
    Truthful ⟨code, none, []⟩ devices intoArray := by
  have hno : ¬(code = .success ∨ code = .incomplete) := by
    rintro (rfl | rfl)
    · exact absurd h (by decide)
    · exact absurd h (by decide)
  exact ⟨fun hc => (hno hc).elim, fun hc => (hno hc).elim, fun hc => (hno (.inr hc)).elim, fun _ _ => h⟩

/-- A code of the native driver that comes with nothing is truthful if it is that of an error. -/
theorem Listing.truthful_failure_iff (code : FailureCode) (devices : List Handle) (intoArray : Bool) :
    Truthful ⟨code.val, none, []⟩ devices intoArray ↔ ¬0 < code.val.value := by
  have hne : code.val.value ≠ 0 := fun h => code.property (congrArg ResultCode.mk h)
  rw [← Int32.neg_iff_not_pos hne]
  exact ⟨fun h => h.failed rfl rfl, fun h => truthful_of_neg h devices intoArray⟩

/-- To list physical devices is always permitted. -/
theorem Event.permitted_enumerate [Reckoning] (bridge : Bridge) (handle : Option Handle) (count : Option UInt32)
    (intoArray : Bool) (trace : Trace) (listing : Listing) :
    Permitted bridge ⟨.enumeratePhysicalDevices handle count intoArray, trace, listing⟩ where
  pools _ _ _ _ _ _ _ _ he := nomatch he
  allocated _ _ _ _ he := nomatch he
  fences _ _ _ _ _ _ _ _ he := nomatch he
  callbacks := nofun
  queues _ _ _ _ he := nomatch he
  known _ _ _ _ _ he := nomatch he
  freed _ _ _ _ _ he := nomatch he

/-- A listing is truthful about the physical devices that the instance has afterwards, exactly if the native driver has
answered with success or an error only. -/
theorem listing_truthful_iff {handle : Option Handle} {count : Option UInt32} {intoArray : Bool} {listing : Listing}
    (h : Attains Event.Proper history before) (hf : trace.Fresh (Trace.held [] (traceOf history)))
    (hr : (Instance.enumeratePhysicalDevices handle count intoArray).Runs before trace listing after) :
    listing.Truthful (after.physicalDevicesAt handle) intoArray ↔ trace.Unqualified := by
  let _ : Reckoning := ⟨False⟩
  have hs : Settled history before := h.settled_of_proper id
  have hp := Event.permitted_enumerate before handle count intoArray trace listing
  obtain ⟨place, natives, ho, hk⟩ := hs.outcome hp hf hr
  have hfull : after.Full := hs.full.step hs.sound (hs.transition ho hk hp hf hr)
  obtain ⟨owner, record, capacity, rfl, ha, rfl, hu⟩ | ⟨code, rfl, hu⟩ := Instance.runs_enumerate_exactly hs.sound hr
  · rw [Bridge.physicalDevicesAt_eq hk.sound hfull ha]
    exact iff_of_true (Instance.report_truthful ..) hu
  · rw [Listing.truthful_failure_iff, hu]

end Use

/-! ## A native driver that finds more devices -/

namespace Sample

/-- The native driver never has room for all handles when it lists them, and is obliging otherwise. -/
def growing : Environment
  | _, .native (.listPhysicalDevices ..) => .error ⟨.incomplete, by decide⟩
  | number, request => Environment.obliging number request

/-- An instance. -/
def instanceOnly : List Call := [.createInstance (some ⟨0, 0, 0⟩) (some (callbacks 1)) true]

/-- What a listing of its physical devices comes to: the trace, the report and the state. -/
def listingOf (environment : Environment) (capacity : UInt32) : Trace × Listing × Bridge :=
  ((Instance.enumeratePhysicalDevices (some inst) (some capacity) true).run (session environment instanceOnly).2).play
    environment (traceOf (session environment instanceOnly).1).length

theorem runs_listingOf (environment : Environment) (capacity : UInt32) :
    (Instance.enumeratePhysicalDevices (some inst) (some capacity) true).Runs (session environment instanceOnly).2
      (listingOf environment capacity).1 (listingOf environment capacity).2.1 (listingOf environment capacity).2.2 :=
  Program.runs_play environment _ _

theorem attains_instanceOnly : Attains Event.Proper (session growing instanceOnly).1 (session growing instanceOnly).2 :=
  attains_session (by decide +kernel)

theorem fresh_listingOf : (listingOf growing 1).1.Fresh (Trace.held [] (traceOf (session growing instanceOnly).1)) := by
  decide +kernel

end Sample

/-- An instance is created, and the native driver then has more devices than it said: the code it answers with is
reported as it is, without a count, which is not the truth. -/
theorem listing_truthful_iff_growing :
    Attains Event.Proper (session Sample.growing Sample.instanceOnly).1 (session Sample.growing Sample.instanceOnly).2 ∧
    (Sample.listingOf Sample.growing 1).1.Fresh (Trace.held [] (traceOf (session Sample.growing Sample.instanceOnly).1)) ∧
    (Instance.enumeratePhysicalDevices (some Sample.inst) (some 1) true).Runs
      (session Sample.growing Sample.instanceOnly).2 (Sample.listingOf Sample.growing 1).1
      ⟨.incomplete, none, []⟩ (Sample.listingOf Sample.growing 1).2.2 ∧
    ¬(Sample.listingOf Sample.growing 1).1.Unqualified ∧
    ¬Listing.Truthful ⟨.incomplete, none, []⟩
      ((Sample.listingOf Sample.growing 1).2.2.physicalDevicesAt (some Sample.inst)) true := by
  have hq : ¬(Sample.listingOf Sample.growing 1).1.Unqualified := by
    unfold Trace.Unqualified
    decide +kernel
  have hr : (Instance.enumeratePhysicalDevices (some Sample.inst) (some 1) true).Runs
      (session Sample.growing Sample.instanceOnly).2 (Sample.listingOf Sample.growing 1).1
      ⟨.incomplete, none, []⟩ (Sample.listingOf Sample.growing 1).2.2 := Sample.runs_listingOf Sample.growing 1
  have ht := (listing_truthful_iff Sample.attains_instanceOnly Sample.fresh_listingOf hr).not.2 hq
  exact ⟨Sample.attains_instanceOnly, Sample.fresh_listingOf, hr, hq, ht⟩

/-- Not every listing is truthful. -/
theorem not_listing_truthful : ¬∀ (history : List Event) (before after : Bridge) (handle : Option Handle)
    (count : Option UInt32) (intoArray : Bool) (trace : Trace) (listing : Listing),
    Attains Event.Proper history before → trace.Fresh (Trace.held [] (traceOf history)) →
      (Instance.enumeratePhysicalDevices handle count intoArray).Runs before trace listing after →
        listing.Truthful (after.physicalDevicesAt handle) intoArray := by
  intro h
  have h := h _ _ _ _ _ _ _ _ Sample.attains_instanceOnly Sample.fresh_listingOf (Sample.runs_listingOf Sample.growing 1)
  -- The call reports that there are more handles than it stored, and has stored no count.
  have hresult : (Sample.listingOf Sample.growing 1).2.1.result = .incomplete := by decide +kernel
  have hcount : (Sample.listingOf Sample.growing 1).2.1.count = none := by decide +kernel
  obtain ⟨count, hsome, -⟩ := h.counted (.inr hresult)
  rw [hcount] at hsome
  cases hsome

end VulkanBridge
