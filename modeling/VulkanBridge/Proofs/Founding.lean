import VulkanBridge.Proofs.Lifetimes
import VulkanBridge.Proofs.Loader
import VulkanBridge.Proofs.Storage
/-!
# Creating an instance in full or not at all

`Trace.deeds` are the exchanges of a trace but for those with the log. A creation obtains memory for the record, opens the
native library and enters it (`NativeLibrary.Opens`), looks up how to make a native instance, makes it, and looks up what
else it needs of it. Where a step fails, the deeds end by undoing those before it, the record's memory last since the native
instance calls back through it (`Instance.Fails`). `founded_or_undone` says that there is no third way, and that nobody
makes a native instance before the library has been entered and the function to make one found.
-/

namespace VulkanBridge

/-! ## Deeds -/

namespace Exchange

/-- The exchange is not one with the log. -/
def isDeed : Exchange → Bool
  | ⟨.notice _, _⟩ => false
  | _ => true

/-- A library of this name does not load, for a reason in words. -/
def unloaded (attempt : String × String) : Exchange := ⟨.openLibrary attempt.1, .error attempt.2⟩

/-- A library of this name loads. -/
def loaded (name : String) : Exchange := ⟨.openLibrary name, .ok ()⟩

/-- A native instance, or none (null), provides a function. -/
def provided (native : NativeHandle) (name : String) : Exchange := ⟨.instanceEntryPoint native name, true⟩

/-- A native instance, or none (null), does not provide a function. -/
def lacking (native : NativeHandle) (name : String) : Exchange := ⟨.instanceEntryPoint native name, false⟩

end Exchange

namespace Trace

/-- The exchanges that are not with the log. -/
def deeds (trace : Trace) : Trace := trace.filter Exchange.isDeed

@[simp] theorem deeds_nil : deeds [] = [] := rfl

@[simp] theorem deeds_append (first last : Trace) : (first ++ last).deeds = first.deeds ++ last.deeds :=
  List.filter_append ..

end Trace

namespace Allocator

variable (allocator : Allocator)

@[simp] theorem deeds_asks (layout : Layout) (scope : Scope) (answer : Option Address) :
    (allocator.asks layout scope answer).deeds = allocator.asks layout scope answer :=
  List.filter_eq_self.2 (allocator.forall_mem_asks (fun _ _ => rfl) rfl)

@[simp] theorem deeds_returns (layout : Layout) (address : Address) :
    (allocator.returns layout address).deeds = allocator.returns layout address :=
  List.filter_eq_self.2 (allocator.forall_mem_returns (fun _ _ => rfl) rfl)

end Allocator

/-! ## The native library -/

namespace NativeLibrary

/-- The names that a library is looked for under, in order. -/
def names (library : Option String) : List String := library.elim Platform.libraryNames fun name => [name]

/-- The deeds by which the native library comes to be at hand: none if it is part of the process; or the first name is
found under which one loads, and it is entered. -/
inductive Opens : (staticEntry : Bool) → (library : Option String) → Trace → Prop
  | linked (library : Option String) : Opens true library []
  | entered {library : Option String} {failed : List (String × String)} {name : String} {later : List String} :
      names library = failed.map (·.1) ++ name :: later →
        Opens false library (failed.map Exchange.unloaded ++ [.loaded name, ⟨.bootstrap name, .ok ()⟩])

/-- The deeds by which the native library turns out not to be at hand: none loads, or the first that does cannot be
entered. -/
inductive Unopened (library : Option String) : Trace → Prop
  | unloaded {failed : List (String × String)} : names library = failed.map (·.1) →
      Unopened library (failed.map Exchange.unloaded)
  | unentered {failed : List (String × String)} {name : String} {later : List String} (text : String) :
      names library = failed.map (·.1) ++ name :: later →
        Unopened library (failed.map Exchange.unloaded ++ [.loaded name, ⟨.bootstrap name, .error text⟩])

variable {trace : Trace}

theorem deeds_openFirst {reason : String} {candidates : List String} {result : Except CallError String}
    (h : (openFirst reason candidates).Runs trace result) :
    (∃ (failed : List (String × String)) (name : String) (later : List String),
        candidates = failed.map (·.1) ++ name :: later ∧ result = .ok name ∧
          trace.deeds = failed.map Exchange.unloaded ++ [.loaded name]) ∨
      ∃ (failed : List (String × String)) (why : String), candidates = failed.map (·.1) ∧ result = .error (.libraryNotFound why) ∧
        trace.deeds = failed.map Exchange.unloaded := by
  -- On the names that are left to try.
  induction candidates generalizing reason trace with
  | nil =>
    rw [openFirst, Program.runs_bind_iff] at h
    obtain ⟨telling, _, _, rfl, ht, rfl, rfl⟩ := h
    obtain rfl := Program.runs_notice_iff.1 ht
    exact .inr ⟨[], reason, rfl, rfl, rfl⟩
  | cons name rest ih =>
    rw [openFirst, Program.runs_bind_iff] at h
    obtain ⟨opening, last, outcome, rfl, ho, h⟩ := h
    obtain rfl := Program.runs_request_iff.1 ho
    cases outcome with
    | ok _ =>
      dsimp only at h
      rw [Program.runs_bind_iff] at h
      obtain ⟨telling, _, _, rfl, ht, rfl, rfl⟩ := h
      obtain rfl := Program.runs_notice_iff.1 ht
      exact .inl ⟨[], name, rest, rfl, rfl, rfl⟩
    | error text =>
      dsimp only at h
      rw [Program.runs_bind_iff] at h
      obtain ⟨telling, last, _, rfl, ht, h⟩ := h
      obtain rfl := Program.runs_notice_iff.1 ht
      obtain ⟨failed, found, later, rfl, rfl, hd⟩ | ⟨failed, why, rfl, rfl, hd⟩ := ih h
      · refine .inl ⟨(name, text) :: failed, found, later, rfl, rfl, ?_⟩
        rw [Trace.deeds_append, Trace.deeds_append, hd]
        rfl
      · refine .inr ⟨(name, text) :: failed, why, rfl, rfl, ?_⟩
        rw [Trace.deeds_append, Trace.deeds_append, hd]
        rfl

/-- The library is at hand, or the initialization fails. -/
theorem deeds_load {staticEntry : Bool} {library : Option String} {result : Except CallError Unit}
    (h : (load staticEntry library).Runs trace result) :
    (result = .ok () ∧ Opens staticEntry library trace.deeds) ∨
      ∃ error, result = .error error ∧ error.result = .initializationFailed ∧ staticEntry = false ∧
        Unopened library trace.deeds := by
  unfold load at h
  cases staticEntry with
  | true =>
    rw [if_pos rfl, Program.runs_bind_iff] at h
    obtain ⟨telling, _, _, rfl, ht, rfl, rfl⟩ := h
    obtain rfl := Program.runs_notice_iff.1 ht
    exact .inl ⟨rfl, .linked library⟩
  | false =>
    rw [if_neg Bool.false_ne_true, Program.runs_bind_iff] at h
    obtain ⟨opening, last, opened, rfl, ho, h⟩ := h
    obtain ⟨failed, name, later, hnames, rfl, hd⟩ | ⟨failed, why, hnames, rfl, hd⟩ := deeds_openFirst ho
    · dsimp only at h
      rw [Program.runs_bind_iff] at h
      obtain ⟨entering, last, entered, rfl, he, h⟩ := h
      obtain rfl := Program.runs_request_iff.1 he
      cases entered with
      | ok _ =>
        obtain ⟨rfl, rfl⟩ := h
        refine .inl ⟨rfl, ?_⟩
        rw [Trace.deeds_append, hd, List.append_assoc]
        exact .entered hnames
      | error text =>
        dsimp only at h
        rw [Program.runs_bind_iff] at h
        obtain ⟨telling, _, _, rfl, ht, rfl, rfl⟩ := h
        obtain rfl := Program.runs_notice_iff.1 ht
        refine .inr ⟨_, rfl, rfl, rfl, ?_⟩
        rw [Trace.deeds_append, hd, List.append_assoc]
        exact .unentered text hnames
    · obtain ⟨rfl, rfl⟩ := h
      refine .inr ⟨_, rfl, rfl, rfl, ?_⟩
      rw [List.append_nil, hd]
      exact .unloaded hnames

/-- All functions of a table are found, or the first is met that is missing. -/
theorem deeds_requireAll {native : NativeHandle} {table : List String} {result : Except CallError Unit}
    (h : (requireAll (hasInstanceEntry native) table).Runs trace result) :
    (result = .ok () ∧ trace.deeds = table.map (.provided native)) ∨
      ∃ earlier name later, table = earlier ++ name :: later ∧ result = .error (.missingEntryPoint name) ∧
        trace.deeds = earlier.map (.provided native) ++ [.lacking native name] := by
  have told (names : List String) : Trace.deeds (names.map (.provided native)) = names.map (.provided native) :=
    List.filter_eq_self.2 (List.forall_mem_map.2 fun _ _ => rfl)
  obtain ⟨rfl, rfl⟩ | ⟨earlier, name, later, rfl, rfl, rfl⟩ := runs_requireAll (fun _ _ _ => Program.runs_request_iff.1) h
  · exact .inl ⟨rfl, told table⟩
  · refine .inr ⟨earlier, name, later, rfl, rfl, ?_⟩
    rw [Trace.deeds_append]
    exact congrArg (· ++ [_]) (told earlier)

end NativeLibrary

/-! ## Instances -/

namespace Instance

variable (staticEntry : Bool) (library : Option String)

section Callbacks

variable (flags : UInt32) (callbacks : Option NativeCallbacks)

/-- The code and the deeds of making a native instance in vain. Nobody makes one unless the library is at hand and provides
the functions to do so. One that is made and then lacks a function that is needed is destroyed, with the callbacks it was
made with. -/
inductive NativeFails : ResultCode → Trace → Prop
  | unopened {opening : Trace} : staticEntry = false → NativeLibrary.Unopened library opening →
      NativeFails .initializationFailed opening
  | unprovided {opening : Trace} {earlier later : List String} {name : String} :
      NativeLibrary.Opens staticEntry library opening → globalNames = earlier ++ name :: later →
        NativeFails .initializationFailed (opening ++ (earlier.map (.provided 0) ++ [.lacking 0 name]))
  | refused {opening : Trace} (code : FailureCode) : NativeLibrary.Opens staticEntry library opening →
      NativeFails code.val
        (opening ++ (globalNames.map (.provided 0) ++ [.native (.createInstance flags callbacks) (.error code)]))
  | incomplete {opening : Trace} {earlier later : List String} {name : String} (native : NativeHandle) :
      NativeLibrary.Opens staticEntry library opening → instanceNames = earlier ++ name :: later →
        NativeFails .initializationFailed
          (opening ++ (globalNames.map (.provided 0) ++ .native (.createInstance flags callbacks) (.ok native) ::
            (earlier.map (.provided native) ++ [.lacking native name, .provided native "vkDestroyInstance",
              .native (.destroyInstance native callbacks) ()])))

end Callbacks

variable (info : InstanceInfo) (allocator : Allocator)

/-- The code and the deeds of creating an instance in vain. Layers and extensions are refused before anything is asked; the
record is the first that is obtained and the last that is given back. -/
inductive Fails : ResultCode → Trace → Prop
  | layers : 0 < info.layers → Fails .layerNotPresent []
  | extensions : info.layers = 0 → 0 < info.extensions → Fails .extensionNotPresent []
  | unrecorded : info.layers = 0 → info.extensions = 0 →
      Fails .outOfHostMemory (allocator.asks .instanceRecord .inst none)
  | undone {storage : Address} {code : ResultCode} {making : Trace} : info.layers = 0 → info.extensions = 0 →
      NativeFails staticEntry library info.flags (allocator.nativeCallbacks (.record storage)) code making →
        Fails code (allocator.asks .instanceRecord .inst (some storage) ++ making ++
          allocator.returns .instanceRecord storage)

variable {staticEntry library info allocator} {flags : UInt32} {callbacks : Option NativeCallbacks} {native : NativeHandle}
  {trace : Trace} {code : ResultCode}

/-- What fails does not report success. -/
theorem Fails.code_ne (h : Fails staticEntry library info allocator code trace) : code ≠ .success := by
  cases h with
  | layers _ => decide
  | extensions _ _ => decide
  | unrecorded _ _ => decide
  | undone _ _ hm =>
    cases hm with
    | unopened _ _ => decide
    | unprovided _ _ => decide
    | refused code _ => exact code.property
    | incomplete _ _ _ => decide

theorem deeds_abandonNative {result : Unit} (hn : .noDestroyInstance native ∉ trace)
    (h : (abandonNative native callbacks).Runs trace result) :
    trace.deeds = [.provided native "vkDestroyInstance", .native (.destroyInstance native callbacks) ()] := by
  obtain rfl | rfl :=
    NativeLibrary.runs_abandon (fun _ _ => Program.runs_request_iff.1) (fun _ => Program.runs_native_iff.1) h
  · rfl
  · exact absurd (List.mem_cons_self ..) hn

/-- The native instance with all that is needed of it, or nothing of it. -/
theorem deeds_createNative {result : Except CallError NativeHandle} (hn : ∀ native, .noDestroyInstance native ∉ trace)
    (h : (createNative staticEntry library flags callbacks).Runs trace result) :
    (∃ native opening, result = .ok native ∧ NativeLibrary.Opens staticEntry library opening ∧
        trace.deeds = opening ++ (globalNames.map (.provided 0) ++
          .native (.createInstance flags callbacks) (.ok native) :: instanceNames.map (.provided native))) ∨
      ∃ error, result = .error error ∧
        NativeFails staticEntry library flags callbacks error.result trace.deeds := by
  unfold createNative at h
  rw [Program.runs_bind_iff] at h
  obtain ⟨opening, last, opened, rfl, ho, h⟩ := h
  obtain ⟨rfl, hopens⟩ | ⟨error, rfl, hcode, hstatic, hunopened⟩ := NativeLibrary.deeds_load ho
  · dsimp only at h
    rw [Program.runs_bind_iff] at h
    obtain ⟨looking, last, found, rfl, hg, h⟩ := h
    obtain ⟨rfl, hglobal⟩ | ⟨earlier, name, later, htable, rfl, hglobal⟩ := NativeLibrary.deeds_requireAll hg
    · dsimp only at h
      rw [Program.runs_bind_iff] at h
      obtain ⟨creating, last, created, rfl, hc, h⟩ := h
      obtain rfl := Program.runs_native_iff.1 hc
      cases created with
      | error code =>
        obtain ⟨rfl, rfl⟩ := h
        refine .inr ⟨_, rfl, ?_⟩
        rw [Trace.deeds_append, Trace.deeds_append, hglobal]
        exact .refused code hopens
      | ok native =>
        dsimp only at h
        rw [Program.runs_bind_iff] at h
        obtain ⟨resolving, last, resolved, rfl, hr, h⟩ := h
        obtain ⟨rfl, hnames⟩ | ⟨earlier, name, later, htable, rfl, hnames⟩ := NativeLibrary.deeds_requireAll hr
        · obtain ⟨rfl, rfl⟩ := h
          refine .inl ⟨native, _, rfl, hopens, ?_⟩
          rw [Trace.deeds_append, Trace.deeds_append, Trace.deeds_append, Trace.deeds_append, hglobal, hnames,
            Trace.deeds_nil, List.append_nil]
          rfl
        · dsimp only at h
          rw [Program.runs_bind_iff] at h
          obtain ⟨undoing, last, done, rfl, hu, rfl, rfl⟩ := h
          have hundoing := deeds_abandonNative (fun hm => hn native (by simp [hm])) hu
          refine .inr ⟨_, rfl, ?_⟩
          rw [Trace.deeds_append, Trace.deeds_append, Trace.deeds_append, Trace.deeds_append, Trace.deeds_append, hglobal,
            hnames, hundoing, Trace.deeds_nil, List.append_nil, List.append_assoc]
          exact .incomplete native hopens htable
    · obtain ⟨rfl, rfl⟩ := h
      refine .inr ⟨_, rfl, ?_⟩
      rw [Trace.deeds_append, Trace.deeds_append, hglobal, Trace.deeds_nil, List.append_nil]
      exact .unprovided hopens htable
  · obtain ⟨rfl, rfl⟩ := h
    refine .inr ⟨error, rfl, ?_⟩
    rw [List.append_nil, hcode]
    exact .unopened hstatic hunopened

/-- The record and the native instance, or nothing of them. -/
theorem deeds_build {explicit : Option CallbackSet} {result : Except CallError (Address × Instance)}
    (hn : ∀ native, .noDestroyInstance native ∉ trace)
    (h : (build staticEntry library info explicit).Runs trace result) :
    (∃ storage native opening, result = .ok (storage, new native (Allocator.merge explicit .system)) ∧
        info.layers = 0 ∧ info.extensions = 0 ∧ NativeLibrary.Opens staticEntry library opening ∧
        trace.deeds = (Allocator.merge explicit .system).asks .instanceRecord .inst (some storage) ++
          (opening ++ (globalNames.map (.provided 0) ++
            .native (.createInstance info.flags ((Allocator.merge explicit .system).nativeCallbacks (.record storage)))
              (.ok native) :: instanceNames.map (.provided native)))) ∨
      ∃ error, result = .error error ∧
        Fails staticEntry library info (Allocator.merge explicit .system) error.result trace.deeds := by
  unfold build at h
  obtain ⟨hlayers, hrefused⟩ | ⟨hlayers, hextensions, hrefused⟩ | ⟨hlayers, hextensions, hrefused⟩ :=
    CallError.ofUnsupported_cases info.layers info.extensions
  · rw [hrefused] at h
    obtain ⟨rfl, rfl⟩ := h
    exact .inr ⟨_, rfl, .layers hlayers⟩
  · rw [hrefused] at h
    obtain ⟨rfl, rfl⟩ := h
    exact .inr ⟨_, rfl, .extensions hlayers hextensions⟩
  · rw [hrefused] at h
    dsimp only at h
    rw [Program.runs_bind_iff] at h
    obtain ⟨asking, last, stored, rfl, ha, h⟩ := h
    obtain ⟨storage, rfl, rfl⟩ | ⟨rfl, rfl⟩ := Allocator.asks_of_allocateObject sound_instanceRecord ha
    · dsimp only at h
      rw [Program.runs_bind_iff] at h
      obtain ⟨creating, last, created, rfl, hc, h⟩ := h
      have hn' : ∀ native, .noDestroyInstance native ∉ creating := fun native hm =>
        hn native (List.mem_append_right _ (List.mem_append_left _ hm))
      obtain ⟨native, opening, rfl, hopens, hd⟩ | ⟨error, rfl, hfails⟩ := deeds_createNative hn' hc
      · obtain ⟨rfl, rfl⟩ := h
        refine .inl ⟨storage, native, opening, rfl, hlayers, hextensions, hopens, ?_⟩
        rw [Trace.deeds_append, Trace.deeds_append, Allocator.deeds_asks, hd, Trace.deeds_nil, List.append_nil]
      · dsimp only at h
        rw [Program.runs_bind_iff] at h
        obtain ⟨freeing, last, done, rfl, hu, rfl, rfl⟩ := h
        refine .inr ⟨error, rfl, ?_⟩
        rw [Trace.deeds_append, Trace.deeds_append, Allocator.deeds_asks, List.append_nil,
          Allocator.returns_of_freeObject sound_instanceRecord hu, Allocator.deeds_returns, ← List.append_assoc]
        exact .undone hlayers hextensions hfails
    · obtain ⟨rfl, rfl⟩ := h
      refine .inr ⟨_, rfl, ?_⟩
      rw [List.append_nil, Allocator.deeds_asks]
      exact .unrecorded hlayers hextensions

end Instance

/-! ## The call -/

/-- The deeds by which the configuration is known, and what it is: it has been read before, or it is read now. -/
inductive Bridge.Reads (bridge : Bridge) : Trace → Config → Prop
  | known {config : Config} : bridge.config = some config → Reads bridge [] config
  | read (content : FileContent) : bridge.config = none →
      Reads bridge [⟨.readConfiguration, content⟩] (.loadOrDefault content)

section Use

variable {history : List Event} {before after : Bridge} {info : InstanceInfo} {explicit : Option CallbackSet} {trace : Trace}
  {code : ResultCode} {stored : Option Handle}

theorem deeds_configuration {config : Config} (h : configuration.Runs before trace config after) :
    before.Reads trace.deeds config ∧ after.blocks = before.blocks ∧ after.staticEntry = before.staticEntry := by
  obtain ⟨hknown, rfl, rfl⟩ | ⟨content, hnone, rfl, rfl, rfl⟩ := configuration_cases h
  · exact ⟨.known hknown, rfl, rfl⟩
  · exact ⟨.read content hnone, rfl, rfl⟩

/-- A creation with a place for the handle makes an instance in full, with a record where there was none: the memory for it
was obtained, the library was at hand and provided the function to make a native instance, and that provides all functions
that are needed of it. Or it fails, stores nothing, reports why and leaves all records as they were; then a native instance
that was made has been destroyed with the same callbacks, and after it the memory for the record has been given back. The
code says that layers or extensions are not present, where nothing was asked of anyone; that there is no memory for the
record; that the library or a function is missing; or else what the native driver answered. -/
theorem founded_or_undone (h : Attains Event.Proper history before) (hf : trace.Fresh (Trace.held [] (traceOf history)))
    (hn : ∀ native, .noDestroyInstance native ∉ trace)
    (hr : (Instance.create (some info) explicit true).Runs before trace (code, stored) after) :
    ∃ allocator reading config deeds, allocator = Allocator.merge explicit .system ∧ before.Reads reading config ∧
      trace.deeds = reading ++ deeds ∧
      ((code = .success ∧ ∃ (address : Address) (native : NativeHandle) (opening : Trace),
          stored = some address.toHandle ∧ before.blocks[address]? = none ∧
          after.blocks = (before.put address (.inst (.new native allocator))).blocks ∧
          info.layers = 0 ∧ info.extensions = 0 ∧ NativeLibrary.Opens before.staticEntry config.library opening ∧
          deeds = allocator.asks .instanceRecord .inst (some address) ++
            (opening ++ (globalNames.map (.provided 0) ++
              .native (.createInstance info.flags (allocator.nativeCallbacks (.record address))) (.ok native) ::
                instanceNames.map (.provided native)))) ∨
        (code ≠ .success ∧ stored = none ∧ after.blocks = before.blocks ∧
          Instance.Fails before.staticEntry config.library info allocator code deeds)) := by
  let _ : Reckoning := ⟨False⟩
  have hs : Settled history before := h.settled_of_proper id
  -- Where the new record lies follows from the memory that is obtained.
  have vacant (address : Address) (hstored : stored = some address.toHandle) : before.blocks[address]? = none := by
    have hreturns : ∀ set ∈ explicit, set.Returns := fun _ _ hstrict => hstrict.elim
    obtain ⟨place, _, _, hplace, -, -, he⟩ | ⟨hnone, -⟩ := Instance.runs_create hreturns hr
    · obtain rfl := toHandle_inj.1 (Option.some.inj (hstored.symm.trans hplace))
      exact hs.sound.fresh hs.occupies hf he (Multiset.mem_singleton_self _)
    · rw [hnone] at hstored
      cases hstored
  unfold Instance.create at hr
  rw [Action.runs_bind_iff] at hr
  obtain ⟨reading, last, config, between, rfl, hc, hr⟩ := hr
  obtain ⟨hreads, hblocks, hstatic⟩ := deeds_configuration hc
  simp only [Action.runs_bind_iff, Action.runs_get_iff, Action.runs_lift_iff] at hr
  obtain ⟨_, _, _, _, rfl, ⟨rfl, rfl, rfl⟩, building, last, built, _, rfl, ⟨hb, rfl⟩, hr⟩ := hr
  rw [List.nil_append] at *
  rw [← hstatic]
  have hn' : ∀ native, .noDestroyInstance native ∉ building := fun native hm =>
    hn native (List.mem_append_right _ (List.mem_append_left _ hm))
  obtain ⟨storage, native, opening, rfl, hlayers, hextensions, hopens, hd⟩ | ⟨error, rfl, hfails⟩ :=
    Instance.deeds_build hn' hb
  · simp only [Action.runs_bind_iff, Action.runs_modify_iff, Action.runs_pure_iff, Prod.mk.injEq] at hr
    obtain ⟨_, _, _, _, rfl, ⟨rfl, rfl⟩, rfl, ⟨rfl, rfl⟩, rfl⟩ := hr
    refine ⟨_, _, config, building.deeds, rfl, hreads, by simp, .inl ⟨rfl, storage, native, opening, rfl, vacant storage rfl, ?_,
      hlayers, hextensions, hopens, hd⟩⟩
    rw [Bridge.put, Bridge.put, hblocks]
  · simp only [Action.runs_bind_iff, Action.runs_lift_iff, Action.runs_pure_iff, Prod.mk.injEq] at hr
    obtain ⟨telling, _, _, _, rfl, ⟨ht, rfl⟩, rfl, ⟨rfl, rfl⟩, rfl⟩ := hr
    obtain rfl := Program.runs_notice_iff.1 ht
    refine ⟨_, _, config, building.deeds, rfl, hreads, ?_, .inr ⟨hfails.code_ne, rfl, hblocks, hfails⟩⟩
    have htold : Trace.deeds [⟨.notice (.createFailed "vkCreateInstance" error), ()⟩] = [] := rfl
    rw [Trace.deeds_append, Trace.deeds_append, Trace.deeds_append, htold, Trace.deeds_nil, List.append_nil, List.append_nil]

end Use

/-! ## A native instance that lacks a function -/

namespace Sample

/-- Native instances cannot create devices; all else goes well. -/
def defective : Environment
  | number, .instanceEntryPoint native name =>
    if name = "vkCreateDevice" then false else Environment.obliging number (.instanceEntryPoint native name)
  | number, request => Environment.obliging number request

/-- What the first creation comes to: the trace, the answer and the state. -/
def foundering : Trace × (ResultCode × Option Handle) × Bridge :=
  ((Instance.create (some ⟨0, 0, 0⟩) (some (callbacks 1)) true).run .initial).play defective 0

end Sample

/-- The native instance has been made and destroyed again, and the memory for the record given back. -/
theorem founded_or_undone_defective :
    Attains Event.Proper [] .initial ∧ Sample.foundering.1.Fresh [] ∧
    (∀ native, .noDestroyInstance native ∉ Sample.foundering.1) ∧
    Sample.foundering.2.1.1 = .initializationFailed ∧ Sample.foundering.2.1.2 = none ∧
    Sample.foundering.2.2.blocks = Bridge.initial.blocks ∧ Sample.foundering.1.deeds.length = 17 ∧
    ∃ allocator reading config deeds, Sample.foundering.1.deeds = reading ++ deeds ∧
      Instance.Fails false config ⟨0, 0, 0⟩ allocator .initializationFailed deeds := by
  have hfresh : Sample.foundering.1.Fresh [] := by decide +kernel
  have hn : ∀ native, .noDestroyInstance native ∉ Sample.foundering.1 := by
    have hprovided : ∀ exchange ∈ Sample.foundering.1, exchange.lacksDestruction = false := by decide +kernel
    intro native hm
    have := hprovided _ hm
    simp [Exchange.noDestroyInstance, Exchange.lacksDestruction] at this
  have hcode : Sample.foundering.2.1.1 = .initializationFailed := by decide +kernel
  have hlength : Sample.foundering.1.deeds.length = 17 := by decide +kernel
  have hr : (Instance.create (some ⟨0, 0, 0⟩) (some (Sample.callbacks 1)) true).Runs .initial Sample.foundering.1
      (Sample.foundering.2.1.1, Sample.foundering.2.1.2) Sample.foundering.2.2 := Program.runs_play Sample.defective _ _
  obtain ⟨allocator, reading, config, deeds, -, -, hdeeds, ⟨hsuccess, -⟩ | ⟨-, hstored, hblocks, hfails⟩⟩ :=
    founded_or_undone .initial hfresh hn hr
  · exact absurd (hcode.symm.trans hsuccess) (by decide)
  · rw [hcode] at hfails
    exact ⟨.initial, hfresh, hn, hcode, hstored, hblocks, hlength, allocator, reading, config.library, deeds, hdeeds, hfails⟩

end VulkanBridge
