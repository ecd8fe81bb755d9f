import VulkanBridge.Proofs.Draining
import VulkanBridge.Proofs.Ownership
import VulkanBridge.Proofs.Usage
/-!
# Calls that leave command buffers alone

Four calls speak to the native driver about command buffers: those that allocate, free, record and execute them. All
others are `Aside` (`Call.aside_run`): they ask nothing about native command buffers, and while the records of some may go,
no record of a command buffer is made or changed. Those that have no effect on anything else either are `Passive`.
-/

namespace VulkanBridge

/-- The native driver is asked for command buffers, gets some back, or gets something to do with one. -/
def Exchange.ofCommandBuffers : Exchange → Bool
  | ⟨.native (.allocateCommandBuffers ..), _⟩ | ⟨.native (.freeCommandBuffers ..), _⟩ => true
  | ⟨.native (.command ..), _⟩ | ⟨.native (.execute ..), _⟩ => true
  | _ => false

namespace Trace

/-- What a trace asks about native command buffers, in order. -/
def commandBuffers (trace : Trace) : Trace := trace.filter Exchange.ofCommandBuffers

@[simp] theorem commandBuffers_nil : commandBuffers [] = [] := rfl

@[simp] theorem commandBuffers_append (first last : Trace) :
    (first ++ last).commandBuffers = first.commandBuffers ++ last.commandBuffers :=
  List.filter_append ..

end Trace

namespace Program

variable {α β : Type}

/-- Nothing is ever asked about native command buffers. -/
def Aside (program : Program α) : Prop := ∀ trace result, program.Runs trace result → trace.commandBuffers = []

theorem aside_pure (value : α) : (pure value : Program α).Aside := by
  rintro trace result ⟨rfl, -⟩
  rfl

theorem Aside.bind {program : Program α} {next : α → Program β} (hp : program.Aside) (hn : ∀ value, (next value).Aside) :
    (program >>= next).Aside := by
  intro trace result h
  obtain ⟨first, last, value, rfl, hf, hl⟩ := runs_bind_iff.1 h
  rw [Trace.commandBuffers_append, hp _ _ hf, hn value _ _ hl, List.append_nil]

theorem aside_request {request : Request} (h : ∀ answer, Exchange.ofCommandBuffers ⟨request, answer⟩ = false) :
    (Program.request request).Aside := by
  intro trace result ht
  obtain rfl := runs_request_iff.1 ht
  simp [Trace.commandBuffers, h result]

theorem aside_notice (notice : Notice) : (Program.notice notice).Aside :=
  @aside_request (.notice notice) fun _ => rfl

theorem aside_native {call : NativeCall} (h : ∀ answer, (Exchange.native call answer).ofCommandBuffers = false) :
    (Program.native call).Aside :=
  @aside_request (.native call) h

/-- Nothing with an effect is ever asked, and nothing about native command buffers. -/
structure Passive (program : Program α) : Prop where
  idle : program.Idle
  aside : program.Aside

theorem passive_pure (value : α) : (pure value : Program α).Passive := ⟨idle_pure value, aside_pure value⟩

theorem Passive.bind {program : Program α} {next : α → Program β} (hp : program.Passive)
    (hn : ∀ value, (next value).Passive) : (program >>= next).Passive where
  idle := hp.idle.bind fun value => (hn value).idle
  aside := hp.aside.bind fun value => (hn value).aside

theorem passive_request {request : Request} (hp : ∀ answer, Exchange.Plain ⟨request, answer⟩)
    (hc : ∀ answer, Exchange.ofCommandBuffers ⟨request, answer⟩ = false) : (Program.request request).Passive :=
  ⟨idle_request hp, aside_request hc⟩

theorem passive_notice {notice : Notice} (h : Exchange.isAlarm ⟨.notice notice, ()⟩ = false) :
    (Program.notice notice).Passive :=
  ⟨idle_notice h, aside_notice notice⟩

theorem passive_native {call : NativeCall} (hl : ∀ answer, (Exchange.native call answer).isLifecycle = false)
    (hc : ∀ answer, (Exchange.native call answer).ofCommandBuffers = false) : (Program.native call).Passive :=
  ⟨idle_native hl, aside_native hc⟩

end Program

open Program (aside_pure aside_request aside_notice aside_native passive_pure passive_request passive_notice passive_native)

/-! ## Memory -/

namespace Allocator

variable (allocator : Allocator)

theorem aside_allocate (size alignment : UInt64) (scope : Scope) : (allocator.allocate size alignment scope).Aside := by
  unfold allocate Callbacks.allocate
  split
  · split
    · exact aside_request fun _ => rfl
    · exact aside_pure _
  · split
    · exact aside_pure _
    · split
      · exact aside_request fun _ => rfl
      · exact aside_pure _

theorem aside_free (memory : Option Address) (size alignment : UInt64) : (allocator.free memory size alignment).Aside := by
  unfold free Callbacks.release
  split
  · exact aside_pure _
  · split
    · split
      · exact aside_request fun _ => rfl
      · exact aside_pure _
    · split
      · exact aside_request fun _ => rfl
      · exact aside_pure _

theorem aside_allocateObject (layout : Layout) (scope : Scope) : (allocator.allocateObject layout scope).Aside := by
  refine .bind (allocator.aside_allocate _ _ _) fun address => ?_
  cases address <;> exact aside_pure _

theorem aside_freeObject (layout : Layout) (address : Address) : (allocator.freeObject layout address).Aside :=
  allocator.aside_free _ _ _

theorem aside_allocateElements (element : Layout) (length : UInt64) (scope : Scope) :
    (allocator.allocateElements element length scope).Aside := by
  unfold allocateElements
  split
  · exact aside_pure _
  · exact allocator.aside_allocateObject _ _

theorem aside_allocateArray (element : Layout) (length : UInt64) (scope : Scope) :
    (allocator.allocateArray element length scope).Aside := by
  unfold allocateArray
  split
  · exact aside_pure _
  · refine .bind (allocator.aside_allocateElements _ _ _) fun allocated => ?_
    cases allocated <;> exact aside_pure _

theorem aside_freeArray (element : Layout) (length : UInt64) (address : Option Address) :
    (allocator.freeArray element length address).Aside := by
  unfold freeArray
  split
  · exact aside_pure _
  · split
    · exact aside_pure _
    · exact allocator.aside_free _ _ _

end Allocator

namespace Registry

theorem aside_prepare (allocator : Allocator) (scope : Scope) : (prepare allocator scope).Aside := by
  refine .bind (allocator.aside_allocateObject _ _) fun allocated => ?_
  cases allocated <;> exact aside_pure _

theorem aside_discard (pending : Pending) : (discard pending).Aside :=
  pending.allocator.aside_freeObject .registryEntry pending.address

variable (registry : Registry) (handle : UInt64)

theorem aside_insert (pending : Pending) : (registry.insert handle pending).Aside := by
  unfold insert
  split
  · exact .bind (aside_discard pending) fun _ => aside_pure _
  · exact aside_pure _

theorem aside_register (allocator : Allocator) (scope : Scope) : (registry.register handle allocator scope).Aside := by
  unfold register
  split
  · exact aside_pure _
  · refine .bind (aside_prepare _ _) fun prepared => ?_
    cases prepared with
    | ok pending => exact .bind (registry.aside_insert _ _) fun _ => aside_pure _
    | error _ => exact aside_pure _

theorem aside_release : (registry.release handle).Aside := by
  unfold release
  split
  · exact .bind (aside_notice _) fun _ => aside_pure _
  · dsimp only
    split
    · exact .bind (Allocator.aside_freeObject _ _ _) fun _ => aside_pure _
    · exact aside_pure _

theorem aside_freeEntries (entries : List (UInt64 × Entry)) : (freeEntries entries).Aside := by
  induction entries with
  | nil => exact aside_pure _
  | cons entry rest ih => exact .bind (Allocator.aside_freeObject _ _ _) fun _ => ih

theorem aside_drop : registry.drop.Aside := by
  unfold drop
  dsimp only
  split
  · exact aside_freeEntries _
  · exact .bind (aside_notice _) fun _ => aside_freeEntries _

end Registry

/-! ## Native libraries, instances and devices -/

namespace NativeLibrary

theorem passive_openFirst (reason : String) (names : List String) : (openFirst reason names).Passive := by
  induction names generalizing reason with
  | nil => exact .bind (passive_notice rfl) fun _ => passive_pure _
  | cons name names ih =>
    refine .bind (passive_request (fun _ => ⟨rfl, rfl, rfl, rfl⟩) fun _ => rfl) fun opened => ?_
    cases opened with
    | ok _ => exact .bind (passive_notice rfl) fun _ => passive_pure _
    | error text => exact .bind (passive_notice rfl) fun _ => ih _

theorem passive_load (staticEntry : Bool) (library : Option String) : (load staticEntry library).Passive := by
  unfold load
  split
  · exact .bind (passive_notice rfl) fun _ => passive_pure _
  · refine .bind (passive_openFirst _ _) fun opened => ?_
    cases opened with
    | error _ => exact passive_pure _
    | ok name =>
      refine .bind (passive_request (fun _ => ⟨rfl, rfl, rfl, rfl⟩) fun _ => rfl) fun found => ?_
      cases found with
      | ok _ => exact passive_pure _
      | error text => exact .bind (passive_notice rfl) fun _ => passive_pure _

theorem passive_requireAll {has : String → Program Bool} (h : ∀ name, (has name).Passive) (names : List String) :
    (requireAll has names).Passive := by
  induction names with
  | nil => exact passive_pure _
  | cons name names ih =>
    refine .bind (h name) fun found => ?_
    cases found with
    | true => exact ih
    | false => exact .bind (passive_notice rfl) fun _ => passive_pure _

theorem passive_hasInstanceEntry (inst : NativeHandle) (name : String) : (hasInstanceEntry inst name).Passive :=
  passive_request (fun _ => ⟨rfl, rfl, rfl, rfl⟩) fun _ => rfl

theorem passive_hasDeviceEntry (device : NativeHandle) (name : String) : (hasDeviceEntry device name).Passive :=
  passive_request (fun _ => ⟨rfl, rfl, rfl, rfl⟩) fun _ => rfl

theorem aside_abandon {has : Program Bool} {destroy : Program Unit} (hh : has.Aside) (hd : destroy.Aside)
    (leaked : Notice) : (abandon has destroy leaked).Aside := by
  refine .bind hh fun found => ?_
  cases found with
  | true => exact hd
  | false => exact aside_notice _

end NativeLibrary

namespace Instance

theorem aside_createNative (staticEntry : Bool) (library : Option String) (flags : UInt32)
    (callbacks : Option NativeCallbacks) : (createNative staticEntry library flags callbacks).Aside := by
  refine .bind (NativeLibrary.passive_load _ _).aside fun loaded => ?_
  cases loaded with
  | error _ => exact aside_pure _
  | ok _ =>
  refine .bind (NativeLibrary.passive_requireAll (NativeLibrary.passive_hasInstanceEntry _) _).aside fun found => ?_
  cases found with
  | error _ => exact aside_pure _
  | ok _ =>
  refine .bind (aside_native fun _ => rfl) fun created => ?_
  cases created with
  | error _ => exact aside_pure _
  | ok native =>
  refine .bind (NativeLibrary.passive_requireAll (NativeLibrary.passive_hasInstanceEntry _) _).aside fun resolved => ?_
  cases resolved with
  | ok _ => exact aside_pure _
  | error _ =>
    exact .bind (NativeLibrary.aside_abandon (NativeLibrary.passive_hasInstanceEntry _ _).aside (aside_native fun _ => rfl) _)
      fun _ => aside_pure _

theorem aside_build (staticEntry : Bool) (library : Option String) (info : InstanceInfo) (explicit : Option CallbackSet) :
    (build staticEntry library info explicit).Aside := by
  unfold build
  split
  · exact aside_pure _
  · refine .bind (Allocator.aside_allocateObject _ _ _) fun allocated => ?_
    cases allocated with
    | error _ => exact aside_pure _
    | ok storage =>
      refine .bind (aside_createNative _ _ _ _) fun created => ?_
      cases created with
      | ok _ => exact aside_pure _
      | error _ => exact .bind (Allocator.aside_freeObject _ _ _) fun _ => aside_pure _

theorem aside_discover (inst : Instance) : inst.discover.Aside := by
  refine .bind (aside_native fun _ => rfl) fun counted => ?_
  cases counted with
  | error _ => exact aside_pure _
  | ok capacity =>
  dsimp only
  split
  · exact aside_pure _
  refine .bind (Allocator.aside_allocateElements _ _ _ _) fun scratch => ?_
  cases scratch with
  | error _ => exact aside_pure _
  | ok scratch =>
  refine .bind (Allocator.aside_allocateElements _ _ _ _) fun block => ?_
  cases block with
  | error _ => exact .bind (Allocator.aside_freeArray _ _ _ _) fun _ => aside_pure _
  | ok block =>
  refine .bind (aside_native fun _ => rfl) fun listed => ?_
  cases listed with
  | ok _ => exact .bind (Allocator.aside_freeArray _ _ _ _) fun _ => aside_pure _
  | error _ =>
    exact .bind (Allocator.aside_freeArray _ _ _ _) fun _ => .bind (Allocator.aside_freeArray _ _ _ _) fun _ => aside_pure _

end Instance

theorem Queue.aside_obtainAll (device : Address) (native : NativeHandle) (family count : UInt32) :
    (obtainAll device native family count).Aside := by
  refine .bind ?_ fun _ => aside_pure _
  induction List.range count.toNat with
  | nil => exact aside_pure _
  | cons index rest ih =>
    rw [List.mapM_cons]
    exact .bind (aside_native fun _ => rfl) fun _ => .bind ih fun _ => aside_pure _

namespace QueueFamily

variable (allocator : Allocator)

theorem aside_freeQueues (families : List QueueFamily) : (freeQueues allocator families).Aside := by
  induction families with
  | nil => exact aside_pure _
  | cons family families ih => exact .bind (allocator.aside_freeArray _ _ _) fun _ => ih

theorem aside_freeAll (block : Option Address) (families : List QueueFamily) (count : UInt64) :
    (freeAll allocator block families count).Aside :=
  .bind (aside_freeQueues allocator families) fun _ => allocator.aside_freeArray _ _ _

theorem aside_buildRest (device : Address) (native : NativeHandle) (block : Option Address) (count : UInt64)
    (built : List BuiltFamily) (requests : List QueueRequest) :
    (buildRest allocator device native block count built requests).Aside := by
  induction requests generalizing built with
  | nil => exact aside_pure _
  | cons request requests ih =>
    refine .bind (allocator.aside_allocateArray _ _ _) fun allocated => ?_
    cases allocated with
    | error _ => exact .bind (aside_freeAll allocator _ _ _) fun _ => aside_pure _
    | ok _ => exact .bind (Queue.aside_obtainAll _ _ _ _) fun _ => ih _

theorem aside_build (device : Address) (native : NativeHandle) (requests : List QueueRequest) :
    (build allocator device native requests).Aside := by
  refine .bind (allocator.aside_allocateArray _ _ _) fun allocated => ?_
  cases allocated with
  | error _ => exact aside_pure _
  | ok block =>
    refine .bind (aside_buildRest allocator _ _ _ _ _ _) fun built => ?_
    cases built <;> exact aside_pure _

end QueueFamily

namespace Device

theorem aside_createNative (physicalDevice : NativeHandle) (info : DeviceInfo) (allocator : Allocator) (storage : Address) :
    (createNative physicalDevice info allocator storage).Aside := by
  refine .bind (aside_native fun _ => rfl) fun created => ?_
  cases created with
  | error _ => exact aside_pure _
  | ok native =>
  refine .bind (NativeLibrary.passive_requireAll (NativeLibrary.passive_hasDeviceEntry _) _).aside fun found => ?_
  cases found with
  | error _ =>
    exact .bind (NativeLibrary.aside_abandon (NativeLibrary.passive_hasDeviceEntry _ _).aside (aside_native fun _ => rfl) _)
      fun _ => aside_pure _
  | ok _ =>
  refine .bind (QueueFamily.aside_build _ _ _ _) fun built => ?_
  cases built with
  | error _ => exact .bind (aside_native fun _ => rfl) fun _ => aside_pure _
  | ok _ => exact aside_pure _

theorem aside_build (physicalDevice : NativeHandle) (parent : Allocator) (info : DeviceInfo)
    (explicit : Option CallbackSet) : (build physicalDevice parent info explicit).Aside := by
  unfold build
  split
  · exact aside_pure _
  · refine .bind (Allocator.aside_allocateObject _ _ _) fun allocated => ?_
    cases allocated with
    | error _ => exact aside_pure _
    | ok storage =>
      refine .bind (aside_createNative _ _ _ _) fun created => ?_
      cases created with
      | error _ => exact .bind (Allocator.aside_freeObject _ _ _) fun _ => aside_pure _
      | ok _ => exact .bind (aside_notice _) fun _ => aside_pure _

end Device

/-! ## Actions -/

/-- Every record of a command buffer was there before. -/
def Bridge.Retains (bridge after : Bridge) : Prop :=
  ∀ (place : Address) (record : CommandBuffer), after.blocks[place]? = some (.commandBuffer record) →
    bridge.blocks[place]? = some (.commandBuffer record)

namespace Bridge.Retains

variable {bridge after last : Bridge}

theorem refl (bridge : Bridge) : bridge.Retains bridge := fun _ _ h => h

theorem trans (hf : bridge.Retains after) (hl : after.Retains last) : bridge.Retains last :=
  fun place record h => hf place record (hl place record h)

theorem put {place : Address} {block : Block} (h : ∀ record, block ≠ .commandBuffer record) :
    bridge.Retains (bridge.put place block) := by
  intro address record hb
  by_cases he : address = place
  · subst he
    rw [blocks_put_self] at hb
    exact absurd (Option.some.inj hb) (h record)
  · rwa [blocks_put he] at hb

theorem remove (bridge : Bridge) (place : Address) : bridge.Retains (bridge.remove place) := by
  intro address record hb
  by_cases he : address = place
  · subst he
    rw [blocks_remove_self] at hb
    cases hb
  · rwa [blocks_remove he] at hb

theorem remove? (bridge : Bridge) (place : Option Address) : bridge.Retains (bridge.remove? place) := by
  cases place with
  | none => exact refl bridge
  | some place => exact remove bridge place

end Bridge.Retains

/-- Blocks at these places may go; all others stay as they are. -/
def Bridge.Loses (bridge after : Bridge) (addresses : List Address) : Prop :=
  ∀ place : Address, after.blocks[place]? = bridge.blocks[place]? ∨ (place ∈ addresses ∧ after.blocks[place]? = none)

namespace Bridge.Loses

variable {bridge after last : Bridge} {addresses others : List Address} {place : Address}

theorem refl (bridge : Bridge) (addresses : List Address) : bridge.Loses bridge addresses := fun _ => .inl rfl

theorem remove (bridge : Bridge) (place : Address) : bridge.Loses (bridge.remove place) [place] := by
  intro address
  by_cases he : address = place
  · subst he
    exact .inr ⟨List.mem_singleton_self _, blocks_remove_self⟩
  · exact .inl (blocks_remove he)

theorem trans (hf : bridge.Loses after addresses) (hl : after.Loses last others) :
    bridge.Loses last (addresses ++ others) := by
  intro place
  obtain he | ⟨hm, hn⟩ := hl place
  · obtain he' | ⟨hm, hn⟩ := hf place
    · exact .inl (he.trans he')
    · exact .inr ⟨List.mem_append_left _ hm, he.trans hn⟩
  · exact .inr ⟨List.mem_append_right _ hm, hn⟩

theorem kept (h : bridge.Loses after addresses) (hn : place ∉ addresses) : after.blocks[place]? = bridge.blocks[place]? :=
  (h place).resolve_right fun hm => hn hm.1

theorem retains (h : bridge.Loses after addresses) : bridge.Retains after := by
  intro place record hb
  obtain he | ⟨-, hn⟩ := h place
  · rwa [he] at hb
  · rw [hn] at hb
    cases hb

end Bridge.Loses

namespace Action

variable {α β : Type}

/-- Nothing is ever asked about native command buffers, and no record of a command buffer is made or changed. -/
def Aside (action : Action α) : Prop :=
  ∀ before trace result after, action.Runs before trace result after →
    trace.commandBuffers = [] ∧ before.Retains after

theorem aside_pure (value : α) : (pure value : Action α).Aside := by
  intro before trace result after h
  obtain ⟨rfl, -, rfl⟩ := runs_pure_iff.1 h
  exact ⟨rfl, .refl before⟩

theorem aside_get : (get : Action Bridge).Aside := by
  intro before trace result after h
  obtain ⟨rfl, -, rfl⟩ := runs_get_iff.1 h
  exact ⟨rfl, .refl before⟩

theorem aside_modify {change : Bridge → Bridge} (h : ∀ bridge : Bridge, bridge.Retains (change bridge)) :
    (modify change : Action PUnit).Aside := by
  intro before trace result after hr
  obtain ⟨rfl, rfl⟩ := runs_modify_iff.1 hr
  exact ⟨rfl, h before⟩

theorem Aside.bind {action : Action α} {next : α → Action β} (ha : action.Aside) (hn : ∀ value, (next value).Aside) :
    (action >>= next).Aside := by
  intro before trace result after h
  obtain ⟨first, last, value, between, rfl, hf, hl⟩ := runs_bind_iff.1 h
  obtain ⟨hft, hfb⟩ := ha _ _ _ _ hf
  obtain ⟨hlt, hlb⟩ := hn value _ _ _ _ hl
  exact ⟨by rw [Trace.commandBuffers_append, hft, hlt]; rfl, hfb.trans hlb⟩

theorem Aside.map {action : Action α} (ha : action.Aside) (f : α → β) : (f <$> action).Aside := by
  intro before trace result after h
  obtain ⟨value, h, -⟩ := runs_map_iff.1 h
  exact ha _ _ _ _ h

theorem aside_lift {program : Program α} (h : program.Aside) : Aside (program : Action α) := by
  intro before trace result after hr
  obtain ⟨hp, rfl⟩ := runs_lift_iff.1 hr
  exact ⟨h _ _ hp, .refl before⟩

/-- The record of an instance or of queues is put in place. -/
theorem aside_put {place : Address} {block : Block} (h : ∀ record, block ≠ .commandBuffer record) :
    (modify (·.put place block) : Action PUnit).Aside :=
  aside_modify fun _ => .put h

theorem aside_remove (place : Address) : (modify (·.remove place) : Action PUnit).Aside :=
  aside_modify fun bridge => .remove bridge place

/-- Nothing with an effect is ever asked, and nothing about native command buffers; and the state stays as it is. -/
structure Passive (action : Action α) : Prop where
  idle : action.Idle
  aside : action.Aside

theorem passive_pure (value : α) : (pure value : Action α).Passive := ⟨idle_pure value, aside_pure value⟩

theorem Passive.bind {action : Action α} {next : α → Action β} (ha : action.Passive) (hn : ∀ value, (next value).Passive) :
    (action >>= next).Passive where
  idle := ha.idle.bind fun value => (hn value).idle
  aside := ha.aside.bind fun value => (hn value).aside

theorem Passive.map {action : Action α} (ha : action.Passive) (f : α → β) : (f <$> action).Passive :=
  ⟨ha.idle.map f, ha.aside.map f⟩

theorem passive_lift {program : Program α} (h : program.Passive) : Passive (program : Action α) :=
  ⟨idle_lift h.idle, aside_lift h.aside⟩

end Action

open VulkanBridge.Action (aside_lift aside_put aside_remove passive_lift)

theorem aside_validate (kind : ObjectKind) (handle : Option Handle) : (validate kind handle).Aside := by
  unfold validate
  split
  · exact .bind (aside_lift (aside_notice _)) fun _ => Action.aside_pure _
  · refine .bind Action.aside_get fun _ => ?_
    split
    · exact Action.aside_pure _
    · exact .bind (aside_lift (aside_notice _)) fun _ => Action.aside_pure _

theorem aside_resolve (kind : ObjectKind) (handle : Option Handle) : (resolve kind handle).Aside := by
  refine .bind (aside_validate _ _) fun accepted => ?_
  cases accepted with
  | error _ => exact Action.aside_pure _
  | ok _ =>
    refine .bind Action.aside_get fun _ => ?_
    split <;> exact Action.aside_pure _

theorem passive_validate (kind : ObjectKind) (handle : Option Handle) : (validate kind handle).Passive :=
  ⟨idle_validate kind handle, aside_validate kind handle⟩

theorem passive_resolve (kind : ObjectKind) (handle : Option Handle) : (resolve kind handle).Passive :=
  ⟨idle_resolve kind handle, aside_resolve kind handle⟩

theorem aside_configuration : configuration.Aside := by
  refine .bind Action.aside_get fun _ => ?_
  split
  · exact Action.aside_pure _
  · refine .bind (aside_lift (aside_request fun _ => rfl)) fun _ => ?_
    refine .bind (aside_lift (aside_notice _)) fun _ => .bind ?_ fun _ => Action.aside_pure _
    exact Action.aside_modify fun bridge => .refl bridge

theorem aside_negotiateVersion (requested : Option UInt32) : (negotiateVersion requested).Aside := by
  refine .bind aside_configuration fun _ => ?_
  split <;> exact Action.aside_pure _

namespace Instance

theorem aside_obtainPhysicalDevices (address : Address) (inst : Instance) :
    (obtainPhysicalDevices address inst).Aside := by
  unfold obtainPhysicalDevices
  split
  · exact Action.aside_pure _
  · refine .bind (aside_lift (aside_discover _)) fun discovered => ?_
    split
    · exact Action.aside_pure _
    · exact Action.aside_pure _
    · exact .bind (aside_put nofun) fun _ => .bind (aside_put nofun) fun _ => Action.aside_pure _

theorem aside_enumeratePhysicalDevices (handle : Option Handle) (count : Option UInt32) (intoArray : Bool) :
    (enumeratePhysicalDevices handle count intoArray).Aside := by
  unfold enumeratePhysicalDevices
  split
  · exact Action.aside_pure _
  · refine .bind (aside_resolve _ _) fun resolved => ?_
    cases resolved with
    | error _ => exact Action.aside_pure _
    | ok resolved =>
      refine .bind (aside_obtainPhysicalDevices _ _) fun obtained => ?_
      cases obtained with
      | error _ => exact Action.aside_pure _
      | ok _ =>
        dsimp only
        split <;> exact Action.aside_pure _

theorem aside_create (info : Option InstanceInfo) (explicit : Option CallbackSet) (output : Bool) :
    (create info explicit output).Aside := by
  refine .bind aside_configuration fun _ => ?_
  split
  · refine .bind Action.aside_get fun _ => .bind (aside_lift (aside_build _ _ _ _)) fun built => ?_
    cases built with
    | ok _ => exact .bind (aside_put nofun) fun _ => Action.aside_pure _
    | error _ => exact .bind (aside_lift (aside_notice _)) fun _ => Action.aside_pure _
  · exact Action.aside_pure _

theorem aside_destroy (handle : Option Handle) (explicit : Option CallbackSet) : (destroy handle explicit).Aside := by
  unfold destroy
  split
  · exact Action.aside_pure _
  · refine .bind (aside_resolve _ _) fun resolved => ?_
    cases resolved with
    | error _ => exact Action.aside_pure _
    | ok resolved =>
      obtain ⟨handle, record⟩ := resolved
      refine .bind (aside_lift (aside_native fun _ => rfl)) fun _ => ?_
      dsimp only
      split
      · exact .bind (aside_lift (Allocator.aside_freeObject _ _ _)) fun _ => aside_remove _
      · refine .bind (aside_lift (Allocator.aside_freeArray _ _ _ _)) fun _ => .bind (aside_remove _) fun _ => ?_
        exact .bind (aside_lift (Allocator.aside_freeObject _ _ _)) fun _ => aside_remove _

end Instance

namespace CommandBuffer

theorem aside_free (pools : Registry) (address : Address) : (free pools address).Aside := by
  refine .bind Action.aside_get fun _ => ?_
  split
  · exact Action.aside_pure _
  · dsimp only
    split
    · refine .bind (aside_lift (Allocator.aside_freeObject _ _ _)) fun _ => .bind (aside_remove _) fun _ => ?_
      exact aside_lift (Registry.aside_release _ _)
    · exact .bind (aside_lift (aside_notice _)) fun _ => aside_lift (Registry.aside_release _ _)

theorem aside_freeAll (pools : Registry) (addresses : List Address) : (freeAll pools addresses).Aside := by
  induction addresses generalizing pools with
  | nil => exact Action.aside_pure _
  | cons address rest ih => exact .bind (aside_free _ _) fun _ => ih _

theorem aside_drain (meant : NativeHandle × Address → Bool) (device : Device) : (drain meant device).Aside := by
  rw [drain_eq]
  exact .bind (aside_freeAll _ _) fun _ => Action.aside_pure _

end CommandBuffer

namespace Device

theorem retains_putQueues (bridge : Bridge) (queues : List (Address × Array Queue)) :
    bridge.Retains (queues.foldl (fun bridge entry => bridge.put entry.1 (.queues entry.2)) bridge) := by
  induction queues generalizing bridge with
  | nil => exact .refl bridge
  | cons entry rest ih =>
    refine .trans (.put fun _ h => ?_) (ih _)
    cases h

theorem retains_removeQueues (bridge : Bridge) (families : List QueueFamily) :
    bridge.Retains (families.foldl (fun bridge family => bridge.remove? family.queues) bridge) := by
  induction families generalizing bridge with
  | nil => exact .refl bridge
  | cons family rest ih => exact .trans (.remove? bridge family.queues) (ih _)

theorem aside_create (handle : Option Handle) (info : Option DeviceInfo) (explicit : Option CallbackSet) (output : Bool) :
    (create handle info explicit output).Aside := by
  unfold create
  split
  · refine .bind (aside_resolve _ _) fun resolved => ?_
    cases resolved with
    | error _ => exact Action.aside_pure _
    | ok resolved =>
      refine .bind Action.aside_get fun _ => .bind (aside_lift (aside_build _ _ _ _)) fun built => ?_
      cases built with
      | ok built =>
        refine .bind (Action.aside_modify fun bridge => ?_) fun _ => Action.aside_pure _
        refine .trans (.put fun _ h => ?_) (retains_putQueues _ built.queues)
        cases h
      | error _ => exact .bind (aside_lift (aside_notice _)) fun _ => Action.aside_pure _
  · exact Action.aside_pure _

theorem aside_destroy (handle : Option Handle) (explicit : Option CallbackSet) : (destroy handle explicit).Aside := by
  -- What is left once the command buffers have been reported.
  have dismantle (handle : Handle) (device : Device) : Action.Aside (do
      let device ← CommandBuffer.drain (fun _ => true) device
      QueueFamily.freeAll device.allocator device.familyBlock device.families device.families.length.toUInt64
      device.pools.drop
      device.fences.drop
      device.allocator.freeObject .device handle.block
      modify fun bridge =>
        (device.families.foldl (fun bridge family => bridge.remove? family.queues) bridge).remove handle.block) := by
    refine .bind (CommandBuffer.aside_drain _ _) fun device => ?_
    refine .bind (aside_lift (QueueFamily.aside_freeAll _ _ _ _)) fun _ => ?_
    refine .bind (aside_lift (Registry.aside_drop _)) fun _ => .bind (aside_lift (Registry.aside_drop _)) fun _ => ?_
    refine .bind (aside_lift (Allocator.aside_freeObject _ _ _)) fun _ => Action.aside_modify fun bridge => ?_
    exact .trans (retains_removeQueues bridge device.families) (.remove _ _)
  unfold destroy
  split
  · exact Action.aside_pure _
  · refine .bind (aside_resolve _ _) fun resolved => ?_
    cases resolved with
    | error _ => exact Action.aside_pure _
    | ok resolved =>
      obtain ⟨handle, device⟩ := resolved
      refine .bind (aside_lift (aside_native fun _ => rfl)) fun _ => ?_
      dsimp only
      split
      · exact dismantle handle device
      · exact .bind (aside_lift (aside_notice _)) fun _ => dismantle handle device

theorem passive_ask (handle : Option Handle) (request : DeviceRequest) : (ask handle request).Passive := by
  refine .bind (passive_resolve _ _) fun resolved => ?_
  cases resolved with
  | error _ => exact Action.passive_pure _
  | ok _ => exact passive_lift (passive_native (fun _ => rfl) fun _ => rfl)

theorem passive_getQueue (handle : Option Handle) (family index : UInt32) (output : Bool) :
    (getQueue handle family index output).Passive := by
  unfold getQueue
  split
  · exact Action.passive_pure _
  · refine .bind (passive_resolve _ _) fun resolved => ?_
    cases resolved with
    | error _ => exact Action.passive_pure _
    | ok resolved =>
      dsimp only
      split
      · exact Action.passive_pure _
      · exact .bind (passive_lift (passive_notice rfl)) fun _ => Action.passive_pure _

end Device

namespace PhysicalDevice

theorem passive_ask (handle : Option Handle) (query : PhysicalDeviceQuery) : (ask handle query).Passive := by
  refine .bind (passive_resolve _ _) fun resolved => ?_
  cases resolved with
  | error _ => exact Action.passive_pure _
  | ok _ => exact .map (passive_lift (passive_native (fun _ => rfl) fun _ => rfl)) _

theorem passive_enumerateExtensions (handle : Option Handle) (layerNamed countGiven : Bool) :
    (enumerateExtensions handle layerNamed countGiven).Passive := by
  refine .bind (passive_validate _ _) fun accepted => ?_
  cases accepted <;> exact Action.passive_pure _

theorem passive_enumerateLayers (handle : Option Handle) (countGiven : Bool) :
    (enumerateLayers handle countGiven).Passive := by
  refine .bind (passive_validate _ _) fun accepted => ?_
  cases accepted <;> exact Action.passive_pure _

end PhysicalDevice

theorem Queue.passive_waitIdle (handle : Option Handle) : (waitIdle handle).Passive := by
  refine .bind (passive_resolve _ _) fun resolved => ?_
  cases resolved with
  | error _ => exact Action.passive_pure _
  | ok _ => exact passive_lift (passive_native (fun _ => rfl) fun _ => rfl)

namespace Submission

theorem passive_writeNatives (natives : Array NativeHandle) (place : Nat) (handles : List (Option Handle)) :
    (writeNatives natives place handles).Passive := by
  induction handles generalizing natives place with
  | nil => exact Action.passive_pure _
  | cons handle rest ih =>
    refine .bind (passive_resolve _ _) fun resolved => ?_
    cases resolved with
    | error _ => exact Action.passive_pure _
    | ok _ => exact ih _ _

theorem passive_describe (draft : Draft) (cursor : Nat) (submissions : List (Submission (Option Handle))) :
    (describe draft cursor submissions).Passive := by
  induction submissions generalizing draft cursor with
  | nil => exact Action.passive_pure _
  | cons submission rest ih =>
    refine .bind (passive_writeNatives _ _ _) fun natives => ?_
    cases natives with
    | error _ => exact Action.passive_pure _
    | ok _ => exact ih _ _

theorem aside_submitDraft (queue : NativeHandle) (allocator : Allocator) (submissions : List (Submission (Option Handle)))
    (fence : NativeHandle) (layout : Layout) (block : Address) :
    (submitDraft queue allocator submissions fence layout block).Aside := by
  refine .bind (passive_describe _ _ _).aside fun drafted => ?_
  cases drafted with
  | error _ => exact .bind (aside_lift (Allocator.aside_freeObject _ _ _)) fun _ => Action.aside_pure _
  | ok _ =>
    refine .bind (aside_lift (aside_native fun _ => rfl)) fun _ => ?_
    exact .bind (aside_lift (Allocator.aside_freeObject _ _ _)) fun _ => Action.aside_pure _

theorem aside_submitTo (queue : NativeHandle) (allocator : Allocator) (submissions : List (Submission (Option Handle)))
    (fence : NativeHandle) : (submitTo queue allocator submissions fence).Aside := by
  unfold submitTo
  dsimp only
  split
  · exact .map (aside_lift (aside_native fun _ => rfl)) _
  split
  · exact Action.aside_pure _
  refine .bind (aside_lift (Allocator.aside_allocateObject _ _ _)) fun allocated => ?_
  cases allocated with
  | error _ => exact Action.aside_pure _
  | ok _ => exact aside_submitDraft _ _ _ _ _ _

theorem aside_submit (handle : Option Handle) (submissions : Span (Submission (Option Handle))) (fence : NativeHandle) :
    (submit handle submissions fence).Aside := by
  refine .bind (aside_resolve _ _) fun resolved => ?_
  cases resolved with
  | error _ => exact Action.aside_pure _
  | ok _ =>
    refine .bind Action.aside_get fun _ => ?_
    split
    · exact Action.aside_pure _
    · refine .bind (aside_submitTo _ _ _ _) fun submitted => ?_
      cases submitted <;> exact Action.aside_pure _

end Submission

theorem Registry.aside_enter {registry : Registry} {allocator : Allocator}
    {make : Option NativeCallbacks → Program (Except FailureCode NativeHandle)} {put : Registry → Bridge → Bridge}
    (hm : ∀ callbacks, (make callbacks).Aside) (hp : ∀ registry, (modify (put registry) : Action Unit).Aside) :
    (registry.enter allocator make put).Aside := by
  refine .bind (aside_lift (Registry.aside_prepare _ _)) fun prepared => ?_
  cases prepared with
  | error _ => exact Action.aside_pure _
  | ok pending =>
  refine .bind (aside_lift (hm _)) fun created => ?_
  cases created with
  | error _ => exact .bind (aside_lift (Registry.aside_discard _)) fun _ => Action.aside_pure _
  | ok handle =>
  exact .bind (aside_lift (Registry.aside_insert _ _ _)) fun _ => .bind (hp _) fun _ => Action.aside_pure _

namespace CommandPool

theorem aside_create (handle : Option Handle) (info : Option PoolInfo) (explicit : Option CallbackSet) :
    (create handle info explicit).Aside := by
  refine .bind (aside_resolve _ _) fun resolved => ?_
  cases resolved with
  | error _ => exact Action.aside_pure _
  | ok resolved =>
  exact Registry.aside_enter (fun _ => aside_native fun _ => rfl) fun _ => aside_put nofun

theorem aside_destroy (handle : Option Handle) (pool : NativeHandle) (explicit : Option CallbackSet) :
    (destroy handle pool explicit).Aside := by
  unfold destroy
  split
  · exact Action.aside_pure _
  refine .bind (aside_resolve _ _) fun resolved => ?_
  cases resolved with
  | error _ => exact Action.aside_pure _
  | ok resolved =>
  refine .bind (aside_lift (aside_native fun _ => rfl)) fun _ => .bind (CommandBuffer.aside_drain _ _) fun _ => ?_
  exact .bind (aside_lift (Registry.aside_release _ _)) fun _ => aside_put nofun

end CommandPool

namespace Fence

theorem aside_create (handle : Option Handle) (info : Option FenceInfo) (explicit : Option CallbackSet) :
    (create handle info explicit).Aside := by
  refine .bind (aside_resolve _ _) fun resolved => ?_
  cases resolved with
  | error _ => exact Action.aside_pure _
  | ok resolved =>
  cases explicit with
  | none =>
    refine .bind (aside_lift (aside_native fun _ => rfl)) fun created => ?_
    cases created <;> exact Action.aside_pure _
  | some set =>
  exact Registry.aside_enter (fun _ => aside_native fun _ => rfl) fun _ => aside_put nofun

theorem aside_destroy (handle : Option Handle) (fence : NativeHandle) (explicit : Option CallbackSet) :
    (destroy handle fence explicit).Aside := by
  unfold destroy
  split
  · exact Action.aside_pure _
  refine .bind (aside_resolve _ _) fun resolved => ?_
  cases resolved with
  | error _ => exact Action.aside_pure _
  | ok resolved =>
  refine .bind (aside_lift (aside_native fun _ => rfl)) fun _ => ?_
  split
  · exact .bind (aside_lift (Registry.aside_release _ _)) fun _ => aside_put nofun
  · exact Action.aside_pure _

end Fence

/-! ## Calls -/

/-- The call allocates, frees, records or executes command buffers. -/
def Call.ofCommandBuffers : Call → Bool
  | allocateCommandBuffers .. | freeCommandBuffers .. | record .. | execute .. => true
  | _ => false

/-- All other calls leave command buffers alone. -/
theorem Call.aside_run {call : Call} (h : call.ofCommandBuffers = false) : call.run.Aside := by
  cases call with
  | useStaticEntry used => exact Action.aside_modify fun bridge => .refl bridge
  | negotiateVersion requested => exact aside_negotiateVersion _
  | resolveInstance _ | resolveDevice _ | enumerateInstanceExtensions _ _ | enumerateInstanceLayers _ =>
    exact Action.aside_pure _
  | createInstance info explicit output => exact Instance.aside_create _ _ _
  | destroyInstance handle explicit => exact Instance.aside_destroy _ _
  | enumeratePhysicalDevices handle count intoArray => exact Instance.aside_enumeratePhysicalDevices _ _ _
  | askPhysicalDevice handle query => exact (PhysicalDevice.passive_ask _ _).aside
  | enumerateDeviceExtensions handle layerNamed countGiven => exact (PhysicalDevice.passive_enumerateExtensions _ _ _).aside
  | enumerateDeviceLayers handle countGiven => exact (PhysicalDevice.passive_enumerateLayers _ _).aside
  | createDevice handle info explicit output => exact Device.aside_create _ _ _ _
  | destroyDevice handle explicit => exact Device.aside_destroy _ _
  | askDevice handle request => exact (Device.passive_ask _ _).aside
  | getQueue handle family index output => exact (Device.passive_getQueue _ _ _ _).aside
  | waitQueueIdle handle => exact (Queue.passive_waitIdle _).aside
  | submit handle submissions fence => exact Submission.aside_submit _ _ _
  | createPool handle info explicit => exact CommandPool.aside_create _ _ _
  | destroyPool handle pool explicit => exact CommandPool.aside_destroy _ _ _
  | createFence handle info explicit => exact Fence.aside_create _ _ _
  | destroyFence handle fence explicit => exact Fence.aside_destroy _ _ _
  | allocateCommandBuffers _ _ | freeCommandBuffers _ _ _ | record _ _ | execute _ _ => cases h

end VulkanBridge
