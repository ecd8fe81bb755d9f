import VulkanBridge.Proofs.Aside
import VulkanBridge.Proofs.Tags
import VulkanBridge.Instance.Lifecycle
import VulkanBridge.Instance.Enumeration
/-!
# Instances and their memory

What creating an instance, listing its physical devices and destroying it do to memory, to native objects and to the
state. The library and the entry points are looked up without any of these effects.
-/

namespace VulkanBridge

/-- A creation is refused for its layers, or else for its extensions, or for neither. -/
theorem CallError.ofUnsupported_cases (layers extensions : UInt32) :
    (0 < layers ∧ ofUnsupported layers extensions = some (layerNotPresent layers)) ∨
      (layers = 0 ∧ 0 < extensions ∧ ofUnsupported layers extensions = some (extensionNotPresent extensions)) ∨
        (layers = 0 ∧ extensions = 0 ∧ ofUnsupported layers extensions = none) := by
  unfold ofUnsupported
  by_cases hlayers : 0 < layers
  · exact .inl ⟨hlayers, if_pos hlayers⟩
  · have hnone : layers = 0 := UInt32.le_zero_iff.1 (UInt32.not_lt.1 hlayers)
    rw [if_neg hlayers]
    by_cases hextensions : 0 < extensions
    · exact .inr (.inl ⟨hnone, hextensions, if_pos hextensions⟩)
    · exact .inr (.inr ⟨hnone, UInt32.le_zero_iff.1 (UInt32.not_lt.1 hextensions), if_neg hextensions⟩)

namespace NativeLibrary

/-- All names of a table are found, or the log is told of the first that is missing. -/
theorem runs_requireAll {has : String → Program Bool} {query : String → Bool → Exchange} {table : List String} {trace : Trace}
    {result : Except CallError Unit} (hhas : ∀ name asking found, (has name).Runs asking found → asking = [query name found])
    (h : (requireAll has table).Runs trace result) :
    (result = .ok () ∧ trace = table.map (query · true)) ∨
      ∃ earlier name later, table = earlier ++ name :: later ∧ result = .error (.missingEntryPoint name) ∧
        trace = earlier.map (query · true) ++ [query name false, ⟨.notice (.entryPointMissing name), ()⟩] := by
  induction table generalizing trace with
  | nil =>
    obtain ⟨rfl, rfl⟩ := h
    exact .inl ⟨rfl, rfl⟩
  | cons name rest ih =>
    rw [requireAll, Program.runs_bind_iff] at h
    obtain ⟨asking, last, found, rfl, ha, h⟩ := h
    rw [hhas name asking found ha]
    cases found with
    | true =>
      obtain ⟨rfl, rfl⟩ | ⟨earlier, missing, later, rfl, rfl, rfl⟩ := ih h
      · exact .inl ⟨rfl, rfl⟩
      · exact .inr ⟨name :: earlier, missing, later, rfl, rfl, rfl⟩
    | false =>
      simp only [Bool.false_eq_true, if_false, Program.runs_bind_iff] at h
      obtain ⟨telling, _, _, rfl, ht, rfl, rfl⟩ := h
      obtain rfl := Program.runs_notice_iff.1 ht
      exact .inr ⟨[], name, rest, rfl, rfl, rfl⟩

section Abandon

variable {has : Program Bool} {destroy : Program Unit} {leaked : Notice} {query : Bool → Exchange} {trace : Trace}
  {result : Unit}

/-- A native object that is abandoned is destroyed. If it turns out that there is no way to do so, the log is told. -/
theorem runs_abandon {undoing : Exchange} (hhas : ∀ asking found, has.Runs asking found → asking = [query found])
    (hdestroy : ∀ ending, destroy.Runs ending () → ending = [undoing])
    (h : (abandon has destroy leaked).Runs trace result) :
    trace = [query true, undoing] ∨ trace = [query false, ⟨.notice leaked, ()⟩] := by
  unfold abandon at h
  rw [Program.runs_bind_iff] at h
  obtain ⟨asking, ending, found, rfl, ha, h⟩ := h
  rw [hhas asking found ha]
  cases found with
  | true =>
    rw [hdestroy ending h]
    exact .inl rfl
  | false =>
    rw [Program.runs_notice_iff.1 h]
    exact .inr rfl

/-- Nothing but the destruction comes of it. -/
theorem effect_abandon [Reckoning] {call : NativeCall} {answer : call.Answer}
    (hhas : ∀ asking found, has.Runs asking found → asking = [query found]) (hidle : ∀ found, Trace.Idle [query found])
    (hdestroy : ∀ ending, destroy.Runs ending () → ending = [.native call answer])
    (hlifecycle : (Exchange.native call answer).isLifecycle = true) (hleaked : Exchange.isAlarm ⟨.notice leaked, ()⟩ = false)
    (h : (abandon has destroy leaked).Runs trace result) (ledger : Ledger) :
    trace.Effect ledger [.native call answer] ledger ∨ (trace.Idle ∧ query false ∈ trace) := by
  obtain rfl | rfl := runs_abandon hhas hdestroy h
  · exact .inl (.after_idle (hidle true) (.native hlifecycle ledger))
  · have htold : Trace.Idle [⟨.notice leaked, ()⟩] := Program.idle_notice hleaked _ () (Program.runs_notice_iff.2 rfl)
    exact .inr ⟨Trace.idle_append_iff.2 ⟨hidle false, htold⟩, List.mem_cons_self ..⟩

end Abandon

end NativeLibrary

namespace Exchange

/-- The native instance turned out to have no way to destroy it. -/
def noDestroyInstance (native : NativeHandle) : Exchange := ⟨.instanceEntryPoint native "vkDestroyInstance", false⟩

/-- The native device turned out to have no way to destroy it. -/
def noDestroyDevice (native : NativeHandle) : Exchange := ⟨.deviceEntryPoint native "vkDestroyDevice", false⟩

end Exchange

namespace Instance

variable {staticEntry : Bool} {library : Option String} {info : InstanceInfo} {explicit : Option CallbackSet}
  {flags : UInt32} {callbacks : Option NativeCallbacks} {native : NativeHandle} {trace : Trace}

theorem sound_instanceRecord : Layout.instanceRecord.Sound := by decide

variable [Reckoning]

/-- The native instance is made, or nothing is left of it. -/
theorem runs_createNative {result : Except CallError NativeHandle}
    (h : (createNative staticEntry library flags callbacks).Runs trace result) (ledger : Ledger) :
    (∃ native, result = .ok native ∧
        trace.Effect ledger [.native (.createInstance flags callbacks) (.ok native)] ledger) ∨
      ∃ error natives, result = .error error ∧ trace.Effect ledger natives ledger ∧
        Trace.Abandons (fun outcome => .native (.createInstance flags callbacks) outcome)
          (fun native => .native (.destroyInstance native callbacks) ()) (.noDestroyInstance · ∈ trace) natives := by
  unfold createNative at h
  rw [Program.runs_bind_iff] at h
  obtain ⟨loading, last, loaded, rfl, hl, h⟩ := h
  have hil := (NativeLibrary.passive_load _ _).idle _ _ hl
  cases loaded with
  | error error =>
    obtain ⟨rfl, rfl⟩ := h
    exact .inr ⟨error, [], rfl, .before_idle (hil.effect _) Trace.idle_nil, .unasked⟩
  | ok _ =>
  rw [Program.runs_bind_iff] at h
  obtain ⟨looking, last, found, rfl, hg, h⟩ := h
  have hig := (NativeLibrary.passive_requireAll (NativeLibrary.passive_hasInstanceEntry _) _).idle _ _ hg
  have hi := Trace.idle_append_iff.2 ⟨hil, hig⟩
  rw [← List.append_assoc]
  cases found with
  | error error =>
    obtain ⟨rfl, rfl⟩ := h
    exact .inr ⟨error, [], rfl, .before_idle (hi.effect _) Trace.idle_nil, .unasked⟩
  | ok _ =>
  rw [Program.runs_bind_iff] at h
  obtain ⟨creating, last, created, rfl, hc, h⟩ := h
  obtain rfl := Program.runs_native_iff.1 hc
  have hc := Trace.Effect.after_idle hi
    (.native (show (Exchange.native (.createInstance flags callbacks) created).isLifecycle = true from rfl) ledger)
  rw [← List.append_assoc]
  cases created with
  | error code =>
    obtain ⟨rfl, rfl⟩ := h
    exact .inr ⟨_, _, rfl, hc.before_idle Trace.idle_nil, .refused code⟩
  | ok native =>
  rw [Program.runs_bind_iff] at h
  obtain ⟨resolving, last, found, rfl, hr, h⟩ := h
  have hir := (NativeLibrary.passive_requireAll (NativeLibrary.passive_hasInstanceEntry _) _).idle _ _ hr
  cases found with
  | ok _ =>
    obtain ⟨rfl, rfl⟩ := h
    exact .inl ⟨native, rfl, hc.before_idle (Trace.idle_append_iff.2 ⟨hir, Trace.idle_nil⟩)⟩
  | error error =>
    rw [Program.runs_bind_iff] at h
    obtain ⟨undoing, last, done, rfl, hu, rfl, rfl⟩ := h
    rw [List.append_nil]
    obtain he | ⟨hiu, hm⟩ := NativeLibrary.effect_abandon (fun _ _ => Program.runs_request_iff.1)
      (fun found => (NativeLibrary.passive_hasInstanceEntry native _).idle _ found (Program.runs_request_iff.2 rfl))
      (fun _ => Program.runs_native_iff.1) rfl rfl hu ledger
    · exact .inr ⟨error, _, rfl, hc.append (.after_idle hir he), .undone native⟩
    · refine .inr ⟨error, _, rfl, hc.before_idle (Trace.idle_append_iff.2 ⟨hir, hiu⟩), .leaked ?_⟩
      exact List.mem_append_right _ (List.mem_append_right _ hm)

/-- Either the instance is made and its record is the one block obtained, or nothing is left of it. -/
theorem runs_build {result : Except CallError (Address × Instance)} (hf : ∀ set ∈ explicit, set.Returns)
    (h : (build staticEntry library info explicit).Runs trace result) :
    (∃ address native, result = .ok (address, new native (Allocator.merge explicit .system)) ∧
        trace.Effect 0
          [.native (.createInstance info.flags ((Allocator.merge explicit .system).nativeCallbacks (.record address)))
            (.ok native)]
          ((Allocator.merge explicit .system).granted address .instanceRecord)) ∨
      ∃ error context natives, result = .error error ∧ trace.Effect 0 natives 0 ∧
        Trace.Abandons
          (fun outcome =>
            .native (.createInstance info.flags ((Allocator.merge explicit .system).nativeCallbacks context)) outcome)
          (fun native => .native (.destroyInstance native ((Allocator.merge explicit .system).nativeCallbacks context)) ())
          (.noDestroyInstance · ∈ trace) natives := by
  unfold build at h
  split at h
  case h_1 error _ =>
    obtain ⟨rfl, rfl⟩ := h
    exact .inr ⟨error, .call, [], rfl, .nil 0, .unasked⟩
  case h_2 =>
    dsimp only at h
    rw [Program.runs_bind_iff] at h
    obtain ⟨first, last, storage, rfl, ha, h⟩ := h
    obtain ⟨address, rfl, he⟩ | ⟨rfl, hi⟩ := Allocator.runs_allocateObject ha
    · dsimp only at h
      rw [Program.runs_bind_iff] at h
      obtain ⟨creating, last, created, rfl, hc, h⟩ := h
      obtain ⟨native, rfl, hn⟩ | ⟨error, natives, rfl, hn, hab⟩ :=
        runs_createNative hc ((Allocator.merge explicit .system).granted address .instanceRecord)
      · obtain ⟨rfl, rfl⟩ := h
        exact .inl ⟨address, native, rfl, he.append (hn.before_idle Trace.idle_nil)⟩
      · dsimp only at h
        rw [Program.runs_bind_iff] at h
        obtain ⟨freeing, last, done, rfl, hu, rfl, rfl⟩ := h
        have free : (Allocator.merge explicit .system).Returns :=
          Allocator.returns_merge Allocator.returns_system hf
        have hu' := Allocator.runs_freeObject free sound_instanceRecord hu
        refine .inr ⟨error, _, natives, rfl, ?_, hab.mono fun native hm => ?_⟩
        · have := he.append (hn.append (hu'.before_idle Trace.idle_nil))
          rwa [List.append_nil natives] at this
        · exact List.mem_append_right _ (List.mem_append_left _ hm)
    · obtain ⟨rfl, rfl⟩ := h
      exact .inr ⟨.outOfHostMemory, .call, [], rfl, .before_idle (hi.effect 0) Trace.idle_nil, .unasked⟩

end Instance

/-- The configuration is known already; or it is read, remembered, and shown to the log. -/
theorem configuration_cases {before after : Bridge} {trace : Trace} {config : Config}
    (h : configuration.Runs before trace config after) :
    (before.config = some config ∧ trace = [] ∧ after = before) ∨
      ∃ content : FileContent, before.config = none ∧ config = Config.loadOrDefault content ∧
        trace = [⟨.readConfiguration, content⟩, ⟨.notice (.initialized config), ()⟩] ∧
          after = { before with config := some config } := by
  unfold configuration at h
  rw [Action.runs_bind_iff] at h
  obtain ⟨_, last, bridge, between, rfl, hg, h⟩ := h
  obtain ⟨rfl, rfl, rfl⟩ := Action.runs_get_iff.1 hg
  split at h
  case h_1 known hknown =>
    obtain ⟨rfl, rfl, rfl⟩ := Action.runs_pure_iff.1 h
    exact .inl ⟨hknown, rfl, rfl⟩
  case h_2 hnone =>
    simp only [Action.runs_bind_iff, Action.runs_lift_iff, Action.runs_modify_iff, Action.runs_pure_iff] at h
    obtain ⟨_, _, content, _, rfl, ⟨hr, rfl⟩, _, _, _, _, rfl, ⟨ht, rfl⟩, _, _, _, _, rfl, ⟨rfl, rfl⟩, rfl, rfl, rfl⟩ := h
    obtain rfl := Program.runs_request_iff.1 hr
    obtain rfl := Program.runs_notice_iff.1 ht
    exact .inr ⟨content, hnone, rfl, rfl, rfl⟩

/-- Reading the configuration changes no record. -/
theorem runs_configuration {before after : Bridge} {trace : Trace} {result : Config}
    (h : configuration.Runs before trace result after) : after.blocks = before.blocks ∧ trace.Idle := by
  obtain ⟨-, rfl, rfl⟩ | ⟨content, -, -, rfl, rfl⟩ := configuration_cases h
  · exact ⟨rfl, Trace.idle_nil⟩
  · exact ⟨rfl, Trace.idle_cons_iff.2 ⟨⟨rfl, rfl, rfl, rfl⟩, Trace.idle_cons_iff.2 ⟨⟨rfl, rfl, rfl, rfl⟩, Trace.idle_nil⟩⟩⟩

namespace Instance

variable {before after : Bridge} {explicit : Option CallbackSet} {trace : Trace}

variable [Reckoning]

/-- Either the record of a new instance is put at a new place, or all records stay as they are. -/
theorem runs_create {info : Option InstanceInfo} {output : Bool} {code : ResultCode} {stored : Option Handle}
    (hf : ∀ set ∈ explicit, set.Returns)
    (h : (create info explicit output).Runs before trace (code, stored) after) :
    (∃ address native flags, stored = some address.toHandle ∧ code = .success ∧
        after.blocks = (before.put address (.inst (new native (Allocator.merge explicit .system)))).blocks ∧
        trace.Effect 0
          [.native (.createInstance flags ((Allocator.merge explicit .system).nativeCallbacks (.record address)))
            (.ok native)]
          ((Allocator.merge explicit .system).granted address .instanceRecord)) ∨
      (stored = none ∧ after.blocks = before.blocks ∧ ∃ flags context natives, trace.Effect 0 natives 0 ∧
        Trace.Abandons
          (fun outcome => .native (.createInstance flags ((Allocator.merge explicit .system).nativeCallbacks context)) outcome)
          (fun native => .native (.destroyInstance native ((Allocator.merge explicit .system).nativeCallbacks context)) ())
          (.noDestroyInstance · ∈ trace) natives) := by
  unfold create at h
  rw [Action.runs_bind_iff] at h
  obtain ⟨reading, last, config, between, rfl, hc, h⟩ := h
  obtain ⟨hb, hi⟩ := runs_configuration hc
  split at h
  case h_1 info =>
    simp only [Action.runs_bind_iff, Action.runs_get_iff, Action.runs_lift_iff] at h
    obtain ⟨_, _, _, _, rfl, ⟨rfl, rfl, rfl⟩, building, last, built, _, rfl, ⟨hr, rfl⟩, h⟩ := h
    obtain ⟨address, native, rfl, he⟩ | ⟨error, context, natives, rfl, he, hab⟩ := runs_build hf hr
    · simp only [Action.runs_bind_iff, Action.runs_modify_iff, Action.runs_pure_iff, Prod.mk.injEq] at h
      obtain ⟨_, _, _, _, rfl, ⟨rfl, rfl⟩, rfl, ⟨rfl, rfl⟩, rfl⟩ := h
      refine .inl ⟨address, native, info.flags, rfl, rfl, ?_, .after_idle hi (he.before_idle Trace.idle_nil)⟩
      rw [Bridge.put, Bridge.put, hb]
    · simp only [Action.runs_bind_iff, Action.runs_lift_iff, Action.runs_pure_iff, Prod.mk.injEq] at h
      obtain ⟨telling, _, _, _, rfl, ⟨hn, rfl⟩, rfl, ⟨-, rfl⟩, rfl⟩ := h
      have hn := Program.idle_notice rfl _ _ hn
      refine .inr ⟨rfl, hb, info.flags, context, natives, ?_, hab.mono fun native hm => ?_⟩
      · exact .after_idle hi (he.before_idle (Trace.idle_append_iff.2 ⟨hn, Trace.idle_nil⟩))
      · exact List.mem_append_right _ (List.mem_append_right _ (List.mem_append_left _ hm))
  case h_2 =>
    simp only [Action.runs_pure_iff, Prod.mk.injEq] at h
    obtain ⟨rfl, ⟨-, rfl⟩, rfl⟩ := h
    exact .inr ⟨rfl, hb, 0, .call, [], .before_idle (hi.effect 0) Trace.idle_nil, .unasked⟩

/-! ## Listing -/

/-- All that a discovery can come to, with the exchanges that lead there. Handles are listed into scratch memory, which
is given back on every path. -/
inductive Discovers (inst : Instance) :
    Trace → Except CallError (Option (PhysicalDeviceArray × List NativeHandle)) → Prop
  | uncounted (code : FailureCode) :
      Discovers inst [.native (.countPhysicalDevices inst.native) (.error code)] (.error (.native code))
  | nothing : Discovers inst [.native (.countPhysicalDevices inst.native) (.ok 0)] (.ok none)
  | noScratch {capacity : UInt32} {first : Trace} {error : CallError} : capacity ≠ 0 →
      (inst.allocator.allocateElements .nativeHandle capacity.toUInt64 .command).Runs first (.error error) →
        Discovers inst ([.native (.countPhysicalDevices inst.native) (.ok capacity)] ++ first) (.error error)
  | noArray {capacity : UInt32} {scratch : Address} {first second freeing : Trace} {error : CallError} : capacity ≠ 0 →
      (inst.allocator.allocateElements .nativeHandle capacity.toUInt64 .command).Runs first (.ok scratch) →
        (inst.allocator.allocateElements .physicalDevice capacity.toUInt64 .inst).Runs second (.error error) →
          (inst.allocator.freeArray .nativeHandle capacity.toUInt64 (some scratch)).Runs freeing () →
            Discovers inst ([.native (.countPhysicalDevices inst.native) (.ok capacity)] ++ (first ++ (second ++ freeing)))
              (.error error)
  | unlisted {capacity : UInt32} {scratch block : Address} {first second freeing last : Trace} (code : FailureCode) :
      capacity ≠ 0 →
        (inst.allocator.allocateElements .nativeHandle capacity.toUInt64 .command).Runs first (.ok scratch) →
          (inst.allocator.allocateElements .physicalDevice capacity.toUInt64 .inst).Runs second (.ok block) →
            (inst.allocator.freeArray .physicalDevice capacity.toUInt64 (some block)).Runs freeing () →
              (inst.allocator.freeArray .nativeHandle capacity.toUInt64 (some scratch)).Runs last () →
                Discovers inst ([.native (.countPhysicalDevices inst.native) (.ok capacity)] ++ (first ++ (second ++
                  ([.native (.listPhysicalDevices inst.native capacity) (.error code)] ++ (freeing ++ last)))))
                  (.error (.native code))
  | listed {capacity : UInt32} {scratch block : Address} {first second freeing : Trace}
      (handles : { handles : List NativeHandle // handles.length ≤ capacity.toNat }) : capacity ≠ 0 →
        (inst.allocator.allocateElements .nativeHandle capacity.toUInt64 .command).Runs first (.ok scratch) →
          (inst.allocator.allocateElements .physicalDevice capacity.toUInt64 .inst).Runs second (.ok block) →
            (inst.allocator.freeArray .nativeHandle capacity.toUInt64 (some scratch)).Runs freeing () →
              Discovers inst ([.native (.countPhysicalDevices inst.native) (.ok capacity)] ++ (first ++ (second ++
                ([.native (.listPhysicalDevices inst.native capacity) (.ok handles)] ++ freeing))))
                (.ok (some (⟨block, capacity, handles.val.length.toUInt32⟩, handles.val)))

omit [Reckoning] in
theorem discovers {inst : Instance} {result : Except CallError (Option (PhysicalDeviceArray × List NativeHandle))}
    (h : inst.discover.Runs trace result) : inst.Discovers trace result := by
  unfold discover at h
  rw [Program.runs_bind_iff] at h
  obtain ⟨counting, last, counted, rfl, hc, h⟩ := h
  obtain rfl := Program.runs_native_iff.1 hc
  cases counted with
  | error code =>
    obtain ⟨rfl, rfl⟩ := h
    exact .uncounted code
  | ok capacity =>
  dsimp only at h
  split at h
  case isTrue hz =>
    obtain rfl := hz
    obtain ⟨rfl, rfl⟩ := h
    exact .nothing
  case isFalse hz =>
    rw [Program.runs_bind_iff] at h
    obtain ⟨first, last, scratched, rfl, hs, h⟩ := h
    cases scratched with
    | error error =>
      obtain ⟨rfl, rfl⟩ := h
      rw [List.append_nil]
      exact .noScratch hz hs
    | ok scratch =>
      dsimp only at h
      rw [Program.runs_bind_iff] at h
      obtain ⟨second, last, allocated, rfl, ha, h⟩ := h
      cases allocated with
      | error error =>
        dsimp only at h
        rw [Program.runs_bind_iff] at h
        obtain ⟨freeing, last, done, rfl, hd, rfl, rfl⟩ := h
        rw [List.append_nil]
        exact .noArray hz hs ha hd
      | ok block =>
        dsimp only at h
        rw [Program.runs_bind_iff] at h
        obtain ⟨listing, last, listed, rfl, hl, h⟩ := h
        obtain rfl := Program.runs_native_iff.1 hl
        cases listed with
        | ok handles =>
          dsimp only at h
          rw [Program.runs_bind_iff] at h
          obtain ⟨freeing, last, done, rfl, hd, rfl, rfl⟩ := h
          rw [List.append_nil]
          exact .listed handles hz hs ha hd
        | error code =>
          dsimp only at h
          simp only [Program.runs_bind_iff] at h
          obtain ⟨freeing, _, _, rfl, hd, freeing', _, _, rfl, hd', rfl, rfl⟩ := h
          rw [List.append_nil]
          exact .unlisted code hz hs ha hd hd'

/-- The native driver's devices are found and an array for their records is obtained, or nothing is kept. -/
theorem runs_discover {inst : Instance} {result : Except CallError (Option (PhysicalDeviceArray × List NativeHandle))}
    (hf : inst.allocator.Returns) (h : inst.discover.Runs trace result) :
    (∃ array handles listed, result = .ok (some (array, handles)) ∧ array.capacity ≠ 0 ∧
        handles.length = array.count.toNat ∧ trace.Effect 0 [.native (.listPhysicalDevices inst.native array.capacity) (.ok listed)]
          (inst.allocator.grantedArray .physicalDevice array.capacity.toUInt64 (some array.block))) ∨
      ((result = .ok none ∨ ∃ error, result = .error error) ∧ trace.Effect 0 [] 0) := by
  have counting (answer) : Trace.Idle [.native (.countPhysicalDevices inst.native) answer] :=
    Trace.idle_cons_iff.2 ⟨⟨rfl, rfl, rfl, rfl⟩, Trace.idle_nil⟩
  have freeing {element : Layout} (he : element.Small) {capacity : UInt32} (hz : capacity ≠ 0) {block : Address}
      {freeing : Trace} (h : (inst.allocator.freeArray element capacity.toUInt64 (some block)).Runs freeing ()) :=
    Allocator.runs_freeArray hf he (toNat_toUInt64_lt capacity) (fun _ => toUInt64_ne_zero hz) h
  cases discovers h with
  | uncounted code => exact .inr ⟨.inr ⟨_, rfl⟩, (counting _).effect 0⟩
  | nothing => exact .inr ⟨.inl rfl, (counting _).effect 0⟩
  | noScratch _ hs =>
    exact .inr ⟨.inr ⟨_, rfl⟩, .after_idle (counting _) ((Allocator.idle_of_allocateElements hs).effect 0)⟩
  | noArray hz hs ha hd =>
    have hs := Allocator.effect_of_allocateElements hs
    have ha := Allocator.idle_of_allocateElements ha
    have hd := freeing Layout.small_nativeHandle hz hd
    exact .inr ⟨.inr ⟨_, rfl⟩, .after_idle (counting _) (hs.append (.after_idle ha hd))⟩
  | @unlisted capacity _ _ _ _ _ _ code hz hs ha hd hd' =>
    have refused : Trace.Idle [.native (.listPhysicalDevices inst.native capacity) (.error code)] :=
      Trace.idle_cons_iff.2 ⟨⟨rfl, rfl, rfl, rfl⟩, Trace.idle_nil⟩
    have held := (Allocator.effect_of_allocateElements hs).obtain_more
      ((Allocator.effect_of_allocateElements ha).before_idle refused)
    have hd := freeing Layout.small_physicalDevice hz hd
    have hd' := freeing Layout.small_nativeHandle hz hd'
    have := Trace.Effect.after_idle (counting (.ok capacity)) ((held.give_back hd).append hd')
    exact .inr ⟨.inr ⟨_, rfl⟩, by simpa only [List.append_assoc, List.append_nil] using this⟩
  | @listed capacity _ block _ _ _ handles hz hs ha hd =>
    have hlisting (ledger : Ledger) :
        Trace.Effect ledger [.native (.listPhysicalDevices inst.native capacity) (.ok handles)] _ ledger :=
      .native rfl ledger
    have held := ((Allocator.effect_of_allocateElements hs).obtain_more (Allocator.effect_of_allocateElements ha)).append
      (hlisting _)
    rw [Multiset.add_comm] at held
    refine .inl ⟨⟨block, capacity, handles.val.length.toUInt32⟩, handles.val, handles, rfl, hz, ?_, ?_⟩
    · have := handles.property
      have := capacity.toNat_lt
      simp only [Nat.toUInt32_eq, UInt32.toNat_ofNat']
      omega
    · have := Trace.Effect.after_idle (counting (.ok capacity)) (held.give_back (freeing Layout.small_nativeHandle hz hd))
      simpa only [List.append_assoc, List.append_nil, List.nil_append, Allocator.grantedArray_some] using this

/-- The state with the physical devices of an instance. -/
def populated (bridge : Bridge) (address : Address) (inst : Instance) (array : PhysicalDeviceArray)
    (handles : List NativeHandle) : Bridge :=
  (bridge.put array.block (.physicalDevices (physicalDeviceRecords address handles))).put address
    (.inst { inst with physicalDevices := some array })

/-- An instance without physical devices gets them, or nothing changes. -/
theorem runs_enumerate {handle : Option Handle} {count : Option UInt32} {intoArray : Bool} {result : Listing}
    (hs : before.Sound)
    (h : (enumeratePhysicalDevices handle count intoArray).Runs before trace result after) :
    (∃ (address : Address) (record : Instance) (array : PhysicalDeviceArray) (handles : List NativeHandle),
        ∃ listed, handle = some address.toHandle ∧ before.blocks[address]? = some (.inst record) ∧
        record.physicalDevices = none ∧ array.capacity ≠ 0 ∧ handles.length = array.count.toNat ∧
        after = populated before address record array handles ∧
        trace.Effect 0 [.native (.listPhysicalDevices record.native array.capacity) (.ok listed)]
          (record.allocator.grantedArray .physicalDevice array.capacity.toUInt64 (some array.block))) ∨
      (after = before ∧ trace.Effect 0 [] 0) := by
  unfold enumeratePhysicalDevices at h
  cases count with
  | none =>
    obtain ⟨rfl, -, rfl⟩ := Action.runs_pure_iff.1 h
    exact .inr ⟨rfl, .nil 0⟩
  | some capacity =>
  dsimp only at h
  rw [Action.runs_bind_iff] at h
  obtain ⟨first, last, resolved, between, rfl, hr, h⟩ := h
  obtain ⟨rfl, ⟨address, record, rfl, hb, rfl, rfl⟩ | ⟨-, rfl, hi⟩⟩ := hs.runs_resolve hr rfl
  · have hsi : record.Sound before address := hs address _ hb
    dsimp only at h
    rw [Action.runs_bind_iff] at h
    obtain ⟨obtaining, last, obtained, between, rfl, ho, h⟩ := h
    have quiet : after = between ∧ last = [] := by
      cases obtained with
      | error _ =>
        obtain ⟨rfl, -, rfl⟩ := Action.runs_pure_iff.1 h
        exact ⟨rfl, rfl⟩
      | ok array =>
        dsimp only at h
        split at h
        all_goals
          obtain ⟨rfl, -, rfl⟩ := Action.runs_pure_iff.1 h
          exact ⟨rfl, rfl⟩
    obtain ⟨rfl, rfl⟩ := quiet
    rw [List.nil_append, List.append_nil]
    unfold obtainPhysicalDevices at ho
    split at ho
    case h_1 =>
      obtain ⟨rfl, -, rfl⟩ := Action.runs_pure_iff.1 ho
      exact .inr ⟨rfl, .nil 0⟩
    case h_2 hnone =>
      rw [Action.runs_bind_iff] at ho
      obtain ⟨discovering, last, discovered, middle, rfl, hd, ho⟩ := ho
      obtain ⟨hd', rfl⟩ := Action.runs_lift_iff.1 hd
      obtain ⟨array, handles, listed, rfl, hz, hlength, he⟩ | ⟨rfl | ⟨error, rfl⟩, he⟩ := runs_discover hsi.free hd'
      · simp only [Action.runs_bind_iff, Action.runs_modify_iff, Action.runs_pure_iff] at ho
        obtain ⟨_, _, _, _, rfl, ⟨rfl, rfl⟩, _, _, _, _, rfl, ⟨rfl, rfl⟩, rfl, -, rfl⟩ := ho
        exact .inl ⟨_, record, array, handles, listed, rfl, hb, hnone, hz, hlength, rfl,
          he.before_idle Trace.idle_nil⟩
      · obtain ⟨rfl, -, rfl⟩ := Action.runs_pure_iff.1 ho
        exact .inr ⟨rfl, he.before_idle Trace.idle_nil⟩
      · obtain ⟨rfl, -, rfl⟩ := Action.runs_pure_iff.1 ho
        exact .inr ⟨rfl, he.before_idle Trace.idle_nil⟩
  · obtain ⟨rfl, -, rfl⟩ := Action.runs_pure_iff.1 h
    exact .inr ⟨rfl, .before_idle (hi.effect 0) Trace.idle_nil⟩

/-! ## Destroying -/

/-- The state without an instance and its physical devices. -/
def removed (bridge : Bridge) (address : Address) (inst : Instance) : Bridge :=
  (bridge.remove? (inst.physicalDevices.map (·.block))).remove address

/-- The native instance is destroyed first, and then all the instance's blocks go. -/
theorem runs_destroy {handle : Option Handle} {result : Unit}
    (hs : before.Sound)
    (h : (destroy handle explicit).Runs before trace result after) :
    (∃ address record, handle = some address.toHandle ∧ before.blocks[address]? = some (.inst record) ∧
        after = removed before address record ∧
        trace.Effect (record.owned address)
          [.native (.destroyInstance record.native ((Allocator.merge explicit record.allocator).nativeCallbacks .call)) ()]
          0) ∨
      (after = before ∧ trace.Idle ∧ before.Lacks .inst handle) := by
  unfold destroy at h
  cases handle with
  | none =>
    obtain ⟨rfl, -, rfl⟩ := Action.runs_pure_iff.1 h
    exact .inr ⟨rfl, Trace.idle_nil, rfl⟩
  | some handle =>
  dsimp only at h
  rw [Action.runs_bind_iff] at h
  obtain ⟨first, last, resolved, between, rfl, hr, h⟩ := h
  obtain ⟨rfl, ⟨place, record, hh, hb, rfl, rfl⟩ | ⟨hno, rfl, hi⟩⟩ := hs.runs_resolve hr rfl
  · obtain rfl := Option.some.inj hh
    have hsound : record.Sound before place := hs place _ hb
    dsimp only at h
    rw [Action.runs_bind_iff] at h
    obtain ⟨destroying, last, done, middle, rfl, hd, h⟩ := h
    obtain ⟨hd', rfl⟩ := Action.runs_lift_iff.1 hd
    obtain rfl := Program.runs_native_iff.1 hd'
    left
    refine ⟨place, record, rfl, hb, ?_⟩
    have freeRecord {freeing : Trace} {value : Unit}
        (h : (record.allocator.freeObject .instanceRecord place).Runs freeing value) :=
      Allocator.runs_freeObject hsound.free sound_instanceRecord h
    cases hp : record.physicalDevices with
    | none =>
      simp only [hp, Action.runs_bind_iff, Action.runs_lift_iff, Action.runs_modify_iff] at h
      obtain ⟨freeing, _, _, _, rfl, ⟨hf, rfl⟩, rfl, rfl⟩ := h
      refine ⟨by rw [removed, hp]; rfl, ?_⟩
      rw [owned, arrayOwned, hp, Option.elim_none, Multiset.add_zero]
      exact (Trace.Effect.native rfl _).append ((freeRecord hf).before_idle Trace.idle_nil)
    | some array =>
      simp only [hp, Action.runs_bind_iff, Action.runs_lift_iff, Action.runs_modify_iff] at h
      obtain ⟨freeing, _, _, _, rfl, ⟨hf, rfl⟩, _, _, _, _, rfl, ⟨rfl, rfl⟩, freeing', _, _, _, rfl, ⟨hf', rfl⟩, rfl, rfl⟩ := h
      refine ⟨by rw [removed, hp]; rfl, ?_⟩
      rw [owned, arrayOwned, hp, Option.elim_some]
      have hz : array.capacity.toUInt64 ≠ 0 := toUInt64_ne_zero (hsound.capacity array hp)
      have hl : array.capacity.toUInt64.toNat < 2 ^ 32 := toNat_toUInt64_lt array.capacity
      have hf := Allocator.runs_freeArray hsound.free Layout.small_physicalDevice hl (fun _ => hz) hf
      exact (Trace.Effect.native rfl _).append
        (((Trace.Effect.nil _).give_back hf).append ((freeRecord hf').before_idle Trace.idle_nil))
  · obtain ⟨rfl, -, rfl⟩ := Action.runs_pure_iff.1 h
    exact .inr ⟨rfl, Trace.idle_append_iff.2 ⟨hi, Trace.idle_nil⟩, hno⟩

/-! ## What the driver owns afterwards -/

variable {bridge : Bridge} {address : Address} {record : Instance} {allocator : Allocator} {native : NativeHandle}
  {places : List Address} {natives : Trace}

theorem keeps_new (hs : bridge.Sound) (ho : bridge.owned.Occupies places) (hf : trace.Fresh places)
    (ha : allocator.Returns) (he : trace.Effect 0 natives (allocator.granted address .instanceRecord)) :
    bridge.Keeps address trace natives (bridge.put address (.inst (new native allocator))) := by
  have hnone : bridge.blocks[address]? = none := hs.fresh ho hf he (Multiset.mem_singleton_self _)
  have hself : (bridge.put address (.inst (new native allocator))).blocks[address]? = some (.inst (new native allocator)) :=
    Bridge.blocks_put_self
  have hparts : (bridge.put address (.inst (new native allocator))).partsAt address = [] := by
    rw [Bridge.partsAt_of_some hself]
    rfl
  have hc : bridge.Changes (bridge.put address (.inst (new native allocator))) address := by
    refine ⟨fun other hne _ _ => Bridge.blocks_put hne, ?_, ?_, ?_, ?_⟩
    · simp [hnone]
    · simp [hparts]
    · simp [hparts, Bridge.partsAt_of_none hnone]
    · intro block hb
      obtain rfl := Option.some.inj (hself.symm.trans hb)
      exact ⟨rfl, ha, nofun, nofun⟩
  refine hc.keeps hs ho hf ?_
  rw [Bridge.ownedAt_of_none hnone, Bridge.ownedAt_of_some hself]
  rw [Block.owned, owned, arrayOwned, new, Option.elim_none, Multiset.add_zero]
  exact he

theorem keeps_populated {array : PhysicalDeviceArray} {handles : List NativeHandle} (hs : bridge.Sound)
    (ho : bridge.owned.Occupies places) (hf : trace.Fresh places)
    (hb : bridge.blocks[address]? = some (.inst record)) (hnone : record.physicalDevices = none)
    (hz : array.capacity ≠ 0)
    (he : trace.Effect 0 natives
      (record.allocator.grantedArray .physicalDevice array.capacity.toUInt64 (some array.block))) :
    bridge.Keeps address trace natives (populated bridge address record array handles) := by
  have hsound : record.Sound bridge address := hs address _ hb
  have hfresh : bridge.blocks[array.block]? = none := hs.fresh ho hf he (Multiset.mem_singleton_self _)
  have hne : array.block ≠ address := by
    rintro heq
    rw [heq, hb] at hfresh
    cases hfresh
  have hself : (populated bridge address record array handles).blocks[address]? =
      some (.inst { record with physicalDevices := some array }) := Bridge.blocks_put_self
  have harray : (populated bridge address record array handles).blocks[array.block]? =
      some (.physicalDevices (physicalDeviceRecords address handles)) := by
    rw [populated, Bridge.blocks_put hne, Bridge.blocks_put_self]
  -- The array is the only part that an instance ever gains.
  have hold : bridge.partsAt address = [] := by
    rw [Bridge.partsAt_of_some hb, Block.parts, parts, hnone]
    rfl
  have hnew : (populated bridge address record array handles).partsAt address = [array.block] := by
    rw [Bridge.partsAt_of_some hself]
    rfl
  have hc : bridge.Changes (populated bridge address record array handles) address := by
    refine ⟨fun other hother _ hp => ?_, ?_, ?_, ?_, ?_⟩
    · rw [hnew, List.mem_singleton] at hp
      rw [populated, Bridge.blocks_put hother, Bridge.blocks_put hp]
    · rw [hb]
      rintro block ⟨rfl⟩
      trivial
    · rw [hnew]
      intro other hm
      rw [List.mem_singleton.1 hm]
      exact .inr hfresh
    · rw [hold, hnew]
      intro other block hm hblock
      obtain rfl : other = array.block := by simpa using hm
      obtain rfl := Option.some.inj (harray.symm.trans hblock)
      exact ⟨trivial, List.mem_singleton_self _⟩
    · intro block hblock
      obtain rfl := Option.some.inj (hself.symm.trans hblock)
      refine ⟨hsound.tag, hsound.free, ?_, ?_⟩
      · rintro found ⟨rfl⟩
        exact hz
      · rintro found ⟨rfl⟩
        refine ⟨_, harray, fun device hm => ?_⟩
        simp only [physicalDeviceRecords, List.mem_toArray, List.mem_map] at hm
        obtain ⟨_, -, rfl⟩ := hm
        exact ⟨rfl, rfl⟩
  refine hc.keeps hs ho hf ?_
  rw [Bridge.ownedAt_of_some hb, Bridge.ownedAt_of_some hself]
  have := he.frame (record.allocator.granted address .instanceRecord)
  rw [Multiset.zero_add, Multiset.add_comm] at this
  rw [Block.owned, owned, arrayOwned, hnone, Option.elim_none, Multiset.add_zero]
  exact this

theorem keeps_removed (hs : bridge.Sound) (ho : bridge.owned.Occupies places) (hf : trace.Fresh places)
    (hb : bridge.blocks[address]? = some (.inst record)) (he : trace.Effect (record.owned address) natives 0) :
    bridge.Keeps address trace natives (removed bridge address record) := by
  have hself : (removed bridge address record).blocks[address]? = none := Bridge.blocks_remove_self
  have hold : bridge.partsAt address = record.physicalDevices.toList.map (·.block) := Bridge.partsAt_of_some hb
  have hnew := Bridge.partsAt_of_none hself
  have hc : bridge.Changes (removed bridge address record) address := by
    refine ⟨fun other hother hp _ => ?_, ?_, ?_, ?_, ?_⟩
    · rw [hold] at hp
      rw [removed, Bridge.blocks_remove hother]
      cases h : record.physicalDevices with
      | none => rfl
      | some array =>
        rw [h] at hp
        exact Bridge.blocks_remove (by simpa using hp)
    · rw [hb]
      rintro block ⟨rfl⟩
      trivial
    · rw [hnew]
      exact nofun
    · rw [hnew, hold]
      intro other block hm hblock
      cases h : record.physicalDevices with
      | none => simp [h] at hm
      | some array =>
        obtain rfl : other = array.block := by simpa [h] using hm
        have hne : array.block ≠ address := by
          obtain ⟨records, hr, -⟩ := Instance.Sound.listed (hs address _ hb) array h
          rintro heq
          rw [heq, hb] at hr
          cases hr
        rw [removed, Bridge.blocks_remove hne, h] at hblock
        exact absurd hblock (by simp [Bridge.remove?, Bridge.blocks_remove_self])
    · rw [hself]
      exact nofun
  refine hc.keeps hs ho hf ?_
  rw [Bridge.ownedAt_of_some hb, Bridge.ownedAt_of_none hself]
  exact he

end Instance

end VulkanBridge
