import VulkanBridge.Proofs.Requests
import VulkanBridge.Proofs.Usage
/-!
# Outcomes of events

`Event.outcome` sums up what an event can do to the state, in thirteen cases: nothing is kept, or one instance or
device is created, changed or destroyed. What holds of all uses is a case analysis over these outcomes.
-/

namespace VulkanBridge

theorem Exchange.listed?_of_not_lifecycle {exchange : Exchange} (h : exchange.isLifecycle = false) :
    exchange.listed? = none := by
  unfold listed?
  split
  · cases h
  · rfl

/-- What a trace says first of something, it says in the part that deals with it. -/
theorem Trace.findSome?_filter {α : Type} {f : Exchange → Option α} {p : Exchange → Bool}
    (h : ∀ exchange, p exchange = false → f exchange = none) (trace : Trace) :
    trace.findSome? f = (trace.filter p).findSome? f := by
  induction trace with
  | nil => rfl
  | cons exchange rest ih =>
    cases hp : p exchange with
    | true => rw [List.filter_cons_of_pos hp, List.findSome?_cons, List.findSome?_cons, ih]
    | false => rw [List.filter_cons_of_neg (by simp [hp]), List.findSome?_cons, h exchange hp, ← ih]

/-- A listing of physical devices shows in the part of a trace that deals with native objects. -/
theorem Trace.findSome?_listed? (trace : Trace) :
    trace.findSome? Exchange.listed? = trace.lifecycle.findSome? Exchange.listed? :=
  findSome?_filter (fun _ => Exchange.listed?_of_not_lifecycle) trace

/-- The kind of what an object goes with. -/
def Object.ownerKind (object : Object) : ObjectKind := if object.isInst then .inst else .device

/-- Each object goes with an instance or a device that the driver has. -/
def Rooted (bridge : Bridge) (live : List Object) : Prop :=
  ∀ object ∈ live, ∃ record, bridge.record? object.ownerKind object.owner = some record

namespace Rooted

variable {bridge : Bridge} {live : List Object} {handle : Handle} {object : Object} {kind : ObjectKind}

theorem ne_of_lacks (h : Rooted bridge live) (hn : bridge.Lacks kind (some handle)) (hm : object ∈ live)
    (hk : object.ownerKind = kind) : object.owner ≠ handle := by
  rintro rfl
  subst hk
  obtain ⟨record, hr⟩ := h object hm
  rw [Bridge.Lacks, Option.bind_some, hr] at hn
  cases hn

end Rooted

/-! ## Events that destroy nothing -/

section Refused

variable {bridge : Bridge} {live : List Object} {handle : Option Handle} {explicit : Option CallbackSet}
  {trace : Trace}

theorem live_destroyInstance (h : Rooted bridge live) (hn : bridge.Lacks .inst handle) :
    Event.live live ⟨.destroyInstance handle explicit, trace, ()⟩ = live := by
  cases handle with
  | none => rfl
  | some handle =>
    refine List.filter_eq_self.2 fun object hm => ?_
    by_cases hi : object.isInst
    · simp [h.ne_of_lacks hn hm (if_pos hi)]
    · simp [hi]

theorem live_destroyDevice (h : Rooted bridge live) (hn : bridge.Lacks .device handle) :
    Event.live live ⟨.destroyDevice handle explicit, trace, ()⟩ = live := by
  cases handle with
  | none => rfl
  | some handle =>
    refine List.filter_eq_self.2 fun object hm => ?_
    by_cases hi : object.isInst
    · simp [hi]
    · simp [h.ne_of_lacks hn hm (if_neg hi)]

theorem live_destroyPool {pool : NativeHandle} (h : Rooted bridge live) (hn : pool = 0 ∨ bridge.Lacks .device handle) :
    Event.live live ⟨.destroyPool handle pool explicit, trace, ()⟩ = live := by
  cases handle with
  | none => rfl
  | some handle =>
    obtain rfl | hn := hn
    · rfl
    · by_cases hz : pool = 0
      · exact if_pos hz
      · refine (if_neg hz).trans ?_
        rw [List.eraseP_of_forall_not, List.filter_eq_self]
        · intro object hm
          by_cases hc : object.isCommandBuffer pool
          · simp [h.ne_of_lacks hn hm (if_neg (by cases object <;> simp_all [Object.isInst, Object.isCommandBuffer]))]
          · simp [hc]
        · intro object hm
          by_cases hc : object.isPool pool
          · simp [h.ne_of_lacks hn hm (if_neg (by cases object <;> simp_all [Object.isInst, Object.isPool]))]
          · simp [hc]

theorem live_freeCommandBuffers {pool : NativeHandle} {commandBuffers : Span (Option Handle)} (h : Rooted bridge live)
    (hn : commandBuffers.toList = [] ∨ bridge.Lacks .device handle) :
    Event.live live ⟨.freeCommandBuffers handle pool commandBuffers, trace, ()⟩ = live := by
  cases handle with
  | none => rfl
  | some handle =>
    refine List.filter_eq_self.2 fun object hm => ?_
    obtain hnil | hn := hn
    · simp [hnil]
    · simp only [Bool.not_eq_true', List.any_eq_false, decide_eq_true_eq]
      rintro found - rfl
      exact h.ne_of_lacks hn hm rfl rfl

theorem live_destroyFence {fence : NativeHandle} (h : Rooted bridge live) (hn : fence = 0 ∨ bridge.Lacks .device handle) :
    Event.live live ⟨.destroyFence handle fence explicit, trace, ()⟩ = live := by
  cases handle with
  | none => rfl
  | some handle =>
    obtain rfl | hn := hn
    · rfl
    · by_cases hz : fence = 0
      · exact if_pos hz
      · refine (if_neg hz).trans (List.eraseP_of_forall_not fun object hm => ?_)
        by_cases hc : object.isFence fence
        · simp [h.ne_of_lacks hn hm (if_neg (by cases object <;> simp_all [Object.isInst, Object.isFence]))]
        · simp [hc]

/-- A call that stores no command buffers makes none. -/
theorem live_allocateCommandBuffers {request : Option CommandBufferRequest} {code : ResultCode} :
    Event.live live ⟨.allocateCommandBuffers handle request, trace, (code, none)⟩ = live := by
  cases handle <;> cases request <;> rfl

/-- A call that does not have physical devices listed lists none. -/
theorem live_enumerate {count : Option UInt32} {intoArray : Bool} {listing : Listing} (h : trace.lifecycle = []) :
    Event.live live ⟨.enumeratePhysicalDevices handle count intoArray, trace, listing⟩ = live := by
  cases handle with
  | none => rfl
  | some handle =>
    have : trace.findSome? Exchange.listed? = none := by rw [trace.findSome?_listed?, h]; rfl
    show (trace.findSome? Exchange.listed?).elim live _ = live
    rw [this]
    rfl

theorem live_createPool {info : Option PoolInfo} {code : ResultCode} :
    Event.live live ⟨.createPool handle info explicit, trace, (code, none)⟩ = live := by
  cases handle <;> rfl

theorem live_createFence {info : Option FenceInfo} {code : ResultCode} :
    Event.live live ⟨.createFence handle info explicit, trace, (code, none)⟩ = live := by
  cases handle <;> rfl

theorem live_createDevice {info : Option DeviceInfo} {code : ResultCode} {output : Bool} :
    Event.live live ⟨.createDevice handle info explicit output, trace, (code, none)⟩ = live := by
  cases info <;> rfl

end Refused

/-- What the creations and destructions of native objects come to in an event that keeps nothing, where these callbacks
are passed. -/
inductive Trace.Futile (bridge : Bridge) (explicit : Option CallbackSet) (trace : Trace) : Trace → Prop
  | none : Futile bridge explicit trace []
  | inst {flags : UInt32} {context : CallbackContext} {natives : Trace} :
      Trace.Abandons
        (fun outcome => .native (.createInstance flags ((Allocator.merge explicit .system).nativeCallbacks context)) outcome)
        (fun native => .native (.destroyInstance native ((Allocator.merge explicit .system).nativeCallbacks context)) ())
        (.noDestroyInstance · ∈ trace) natives →
          Futile bridge explicit trace natives
  | device {physicalDevice : NativeHandle} {info : DeviceInfo} {parent : Allocator}
      {context : CallbackContext} {natives : Trace} :
      bridge.Bequeaths parent → Trace.Abandons
        (fun outcome =>
          .native (.createDevice physicalDevice info ((Allocator.merge explicit parent).nativeCallbacks context)) outcome)
        (fun native => .native (.destroyDevice native ((Allocator.merge explicit parent).nativeCallbacks context)) ())
        (.noDestroyDevice · ∈ trace) natives →
          Futile bridge explicit trace natives
  | pool {device : NativeHandle} {info : Option PoolInfo} {parent : Allocator}
      {context : CallbackContext} {code : FailureCode} :
      bridge.Bequeaths parent → Futile bridge explicit trace
        [.native (.createPool device info ((Allocator.merge explicit parent).nativeCallbacks context)) (.error code)]
  | fence {device : NativeHandle} {info : Option FenceInfo} {parent : Allocator}
      {context : CallbackContext} {code : FailureCode} :
      bridge.Bequeaths parent → Futile bridge explicit trace
        [.native (.createFence device info ((Allocator.merge explicit parent).nativeCallbacks context)) (.error code)]

/-- No count of references grows beyond its word. -/
structure Event.Bounded (bridge : Bridge) (event : Event) : Prop where
  pools : ∀ (owner : Address) device info explicit trace code pool, bridge.blocks[owner]? = some (.device device) →
    event = ⟨.createPool (some owner.toHandle) info explicit, trace, (code, some pool)⟩ →
      device.pools.references pool + 1 < 2 ^ 32
  allocated : ∀ (owner : Address) device request, bridge.blocks[owner]? = some (.device device) →
    event.call = .allocateCommandBuffers (some owner.toHandle) (some request) →
      CommandBuffer.AllocatedNatively event.trace device request →
        device.pools.references request.pool + request.count.toNat < 2 ^ 32
  fences : ∀ (owner : Address) device info set trace code fence, bridge.blocks[owner]? = some (.device device) →
    event = ⟨.createFence (some owner.toHandle) info (some set), trace, (code, some fence)⟩ →
      device.fences.references fence + 1 < 2 ^ 32

/-- There is room for the references of command buffers that the native driver has made. -/
theorem Event.Bounded.room {bridge : Bridge} {event : Event} {handle : Option Handle} {request : Option CommandBufferRequest}
    (h : event.Bounded bridge) (he : event.call = .allocateCommandBuffers handle request) (owner : Address)
    (device : Device) (wanted : CommandBufferRequest) (hh : handle = some owner.toHandle)
    (hb : bridge.blocks[owner]? = some (.device device)) (hr : request = some wanted)
    (ha : CommandBuffer.AllocatedNatively event.trace device wanted) :
    device.pools.references wanted.pool + wanted.count.toNat < 2 ^ 32 := by
  subst hh hr
  exact h.allocated owner device wanted hb he ha

variable [Reckoning]

/-- The call is a proper use of the objects in the state: what it destroys or frees is there. -/
structure Event.Permitted (bridge : Bridge) (event : Event) : Prop extends Event.Bounded bridge event where
  callbacks : ∀ set ∈ event.call.explicit?, set.Returns
  queues : ∀ handle info explicit output, event.call = .createDevice handle (some info) explicit output →
    info.queues.toList.length < 2 ^ 32
  known : ∀ (owner : Address) device pool explicit, bridge.blocks[owner]? = some (.device device) →
    event.call = .destroyPool (some owner.toHandle) pool explicit → pool ≠ 0 → device.pools.grant? pool ≠ none
  freed : ∀ (owner : Address) device pool commandBuffers, bridge.blocks[owner]? = some (.device device) →
    event.call = .freeCommandBuffers (some owner.toHandle) pool commandBuffers →
      ∃ addresses : List Address, addresses.Nodup ∧ (∀ address ∈ addresses, (pool, address) ∈ device.commandBuffers) ∧
        commandBuffers.toList.filterMap id = addresses.map Address.toHandle

/-- The command buffers that are freed are distinct, and of the pool. -/
theorem Event.Permitted.entries {bridge : Bridge} {event : Event} {handle : Option Handle} {pool : NativeHandle}
    {commandBuffers : Span (Option Handle)} (h : event.Permitted bridge)
    (he : event.call = .freeCommandBuffers handle pool commandBuffers) (owner : Address) (device : Device)
    (hh : handle = some owner.toHandle) (hb : bridge.blocks[owner]? = some (.device device)) :
    ∃ addresses : List Address, addresses.Nodup ∧ (∀ address ∈ addresses, (pool, address) ∈ device.commandBuffers) ∧
      commandBuffers.toList.filterMap id = addresses.map Address.toHandle := by
  subst hh
  exact h.freed owner device pool commandBuffers hb he

/-- What an event does to the state, which is to one owner and what belongs to it. -/
inductive Outcome (bridge : Bridge) (owner : Address) : Event → Bridge → Prop
  | kept {event : Event} {after : Bridge} {natives : Trace} :
      after.blocks = bridge.blocks → event.trace.Effect 0 natives 0 → event.trace.Futile bridge event.call.explicit? natives →
        (∀ live, Rooted bridge live → event.live live = live) → Outcome bridge owner event after
  | createdInstance {info : Option InstanceInfo} {explicit : Option CallbackSet} {output : Bool} {trace : Trace}
      {code : ResultCode} {native : NativeHandle} {flags : UInt32} {after : Bridge} :
      bridge.blocks[owner]? = none →
        after.blocks = (bridge.put owner (.inst (.new native (Allocator.merge explicit .system)))).blocks →
          bridge.Keeps owner trace
            [.native (.createInstance flags ((Allocator.merge explicit .system).nativeCallbacks (.record owner)))
              (.ok native)] after →
            Outcome bridge owner ⟨.createInstance info explicit output, trace, (code, some owner.toHandle)⟩ after
  | populated {count : Option UInt32} {intoArray : Bool} {trace : Trace} {listing : Listing} {record : Instance}
      {array : PhysicalDeviceArray} {listed : { handles : List NativeHandle // handles.length ≤ array.capacity.toNat }}
      {after : Bridge} :
      bridge.blocks[owner]? = some (.inst record) →
        after.blocks[owner]? = some (.inst { record with physicalDevices := some array }) →
          bridge.Keeps owner trace [.native (.listPhysicalDevices record.native array.capacity) (.ok listed)] after →
            Outcome bridge owner ⟨.enumeratePhysicalDevices (some owner.toHandle) count intoArray, trace, listing⟩ after
  | destroyedInstance {explicit : Option CallbackSet} {trace : Trace} {record : Instance} {after : Bridge} :
      bridge.blocks[owner]? = some (.inst record) → after.blocks[owner]? = none →
        bridge.Keeps owner trace
          [.native (.destroyInstance record.native ((Allocator.merge explicit record.allocator).nativeCallbacks .call)) ()]
          after →
          Outcome bridge owner ⟨.destroyInstance (some owner.toHandle) explicit, trace, ()⟩ after
  | createdDevice {handle : Option Handle} {info : DeviceInfo} {explicit : Option CallbackSet} {output : Bool}
      {trace : Trace} {code : ResultCode} {native physicalDevice : NativeHandle} {parent : Allocator}
      {block : Option Address} {built : List BuiltFamily} {after : Bridge} :
      Device.Apart bridge owner built →
        Device.Made bridge info explicit trace after owner native physicalDevice parent block built →
          bridge.Keeps owner trace
            [.native (.createDevice physicalDevice info
              ((Allocator.merge explicit parent).nativeCallbacks (.record owner))) (.ok native)] after →
            Outcome bridge owner ⟨.createDevice handle (some info) explicit output, trace,
              (code, some owner.toHandle)⟩ after
  | destroyedDevice {explicit : Option CallbackSet} {trace : Trace} {device : Device} {after : Bridge} :
      Device.Destroyed bridge (some owner.toHandle) explicit trace after owner device →
        Outcome bridge owner ⟨.destroyDevice (some owner.toHandle) explicit, trace, ()⟩ after
  | createdPool {info : Option PoolInfo} {explicit : Option CallbackSet} {trace : Trace} {code : ResultCode}
      {device : Device} {pending : Registry.Pending} {pool : NativeHandle} {pools : Registry} {after : Bridge} :
      CommandPool.Made bridge (some owner.toHandle) info explicit trace after owner device pending pool pools →
        bridge.Keeps owner trace [.native (.createPool device.native info pending.nativeCallbacks) (.ok pool)] after →
          Outcome bridge owner ⟨.createPool (some owner.toHandle) info explicit, trace, (code, some pool)⟩ after
  | destroyedPool {explicit : Option CallbackSet} {trace : Trace} {device changed : Device} {pool : NativeHandle}
      {after : Bridge} :
      pool ≠ 0 → CommandPool.Destroyed bridge (some owner.toHandle) pool explicit trace after owner device changed →
        Outcome bridge owner ⟨.destroyPool (some owner.toHandle) pool explicit, trace, ()⟩ after
  | allocated {request : CommandBufferRequest} {trace : Trace} {code : ResultCode}
      {stored : Option (List (Option Handle))} {device changed : Device} {new : List Address} {after : Bridge} :
      CommandBuffer.Regrouped bridge (some owner.toHandle) owner device trace after changed →
        (stored.getD []).filterMap id = new.map Address.toHandle →
          elements changed.commandBuffers = (new.map (request.pool, ·) : Multiset _) + elements device.commandBuffers →
            Outcome bridge owner ⟨.allocateCommandBuffers (some owner.toHandle) (some request), trace, (code, stored)⟩ after
  | freed {pool : NativeHandle} {commandBuffers : Span (Option Handle)} {trace : Trace} {device changed : Device}
      {addresses : List Address} {after : Bridge} :
      CommandBuffer.Regrouped bridge (some owner.toHandle) owner device trace after changed →
        commandBuffers.toList.filterMap id = addresses.map Address.toHandle →
          elements device.commandBuffers = (addresses.map (pool, ·) : Multiset _) + elements changed.commandBuffers →
            Outcome bridge owner ⟨.freeCommandBuffers (some owner.toHandle) pool commandBuffers, trace, ()⟩ after
  | createdFence {info : Option FenceInfo} {set : CallbackSet} {trace : Trace} {code : ResultCode} {device : Device}
      {pending : Registry.Pending} {fence : NativeHandle} {fences : Registry} {after : Bridge} :
      Fence.Made bridge (some owner.toHandle) info set trace after owner device pending fence fences →
        bridge.Keeps owner trace [.native (.createFence device.native info pending.nativeCallbacks) (.ok fence)] after →
          Outcome bridge owner ⟨.createFence (some owner.toHandle) info (some set), trace, (code, some fence)⟩ after
  | createdPlainFence {info : Option FenceInfo} {code : ResultCode} {device : Device} {fence : NativeHandle} :
      bridge.blocks[owner]? = some (.device device) →
        bridge.Keeps owner [Fence.plainCreation owner device info fence] [Fence.plainCreation owner device info fence]
          bridge →
          Outcome bridge owner ⟨.createFence (some owner.toHandle) info none, [Fence.plainCreation owner device info fence],
            (code, some fence)⟩ bridge
  | destroyedFence {explicit : Option CallbackSet} {trace : Trace} {device : Device} {fence : NativeHandle}
      {fences : Registry} {after : Bridge} :
      fence ≠ 0 → Fence.Destroyed bridge (some owner.toHandle) fence explicit trace after owner device fences →
        Outcome bridge owner ⟨.destroyFence (some owner.toHandle) fence explicit, trace, ()⟩ after

variable {bridge after : Bridge} {owner : Address} {event : Event} {places : List Address}

/-- Every outcome leaves the records fitting together, accounts for memory and touches one owner only. -/
theorem Outcome.keeps (h : Outcome bridge owner event after) (hs : bridge.Sound) (ho : bridge.owned.Occupies places)
    (hf : event.trace.Fresh places) : ∃ natives, bridge.Keeps owner event.trace natives after := by
  cases h with
  | kept hb he _ _ => exact ⟨_, hs.keeps_still ho hf hb he owner⟩
  | createdInstance _ _ hk => exact ⟨_, hk⟩
  | populated _ _ hk => exact ⟨_, hk⟩
  | destroyedInstance _ _ hk => exact ⟨_, hk⟩
  | createdDevice _ _ hk => exact ⟨_, hk⟩
  | destroyedDevice hd => exact ⟨_, hd.keeps⟩
  | createdPool _ hk => exact ⟨_, hk⟩
  | destroyedPool _ hd => exact ⟨_, hd.keeps⟩
  | allocated hr _ _ => exact ⟨_, hr.keeps⟩
  | freed hr _ _ => exact ⟨_, hr.keeps⟩
  | createdFence _ hk => exact ⟨_, hk⟩
  | createdPlainFence _ hk => exact ⟨_, hk⟩
  | destroyedFence _ hd => exact ⟨_, hd.keeps⟩

namespace Event

/-- An event of a call that never has an effect. -/
theorem outcome_of_idle (hl : ∀ live, event.live live = live) (hi : event.call.run.Idle) (h : event.Leads bridge after) :
    ∃ owner, Outcome bridge owner event after := by
  obtain ⟨rfl, hi⟩ := hi _ _ _ _ h
  exact ⟨⟨0⟩, .kept rfl (hi.effect 0) .none fun live _ => hl live⟩

/-- The outcome of each event that is a proper use. -/
theorem outcome (hs : bridge.Sound) (ho : bridge.owned.Occupies places) (hf : event.trace.Fresh places)
    (hp : event.Permitted bridge) (h : event.Leads bridge after) : ∃ owner, Outcome bridge owner event after := by
  obtain ⟨call, trace, answer⟩ := event
  have permitted := hp
  have bounded := hp.toBounded
  obtain ⟨⟨pools, -, fences⟩, callbacks, queues, known, -⟩ := hp
  dsimp only at hf callbacks queues known
  -- What a call may come to is shown where it is defined; here each way is read as an outcome.
  cases call with
  | useStaticEntry used =>
    obtain ⟨rfl, rfl⟩ := Action.runs_modify_iff.1 h
    exact ⟨⟨0⟩, .kept rfl (.nil 0) .none fun _ _ => rfl⟩
  | negotiateVersion requested =>
    obtain ⟨hb, hi⟩ := runs_negotiateVersion h
    exact ⟨⟨0⟩, .kept hb (hi.effect 0) .none fun _ _ => rfl⟩
  | resolveInstance name => exact outcome_of_idle (fun _ => rfl) (Action.idle_pure _) h
  | resolveDevice name => exact outcome_of_idle (fun _ => rfl) (Action.idle_pure _) h
  | createInstance info explicit output =>
    obtain ⟨code, stored⟩ := answer
    obtain ⟨address, native, flags, rfl, -, hb, he⟩ | ⟨rfl, hb, flags, context, natives, he, ha⟩ :=
      Instance.runs_create callbacks h
    · have hk : bridge.Keeps address trace _ (bridge.put address (.inst (.new native _))) :=
        Instance.keeps_new hs ho hf (Allocator.returns_merge Allocator.returns_system callbacks) he
      exact ⟨_, .createdInstance (hs.fresh ho hf he (Multiset.mem_singleton_self _)) hb (hk.congr hb)⟩
    · exact ⟨⟨0⟩, .kept hb he (.inst ha) fun _ _ => rfl⟩
  | destroyInstance handle explicit =>
    obtain ⟨address, record, rfl, hb, rfl, he⟩ | ⟨rfl, hi, hn⟩ := Instance.runs_destroy hs h
    · exact ⟨_, .destroyedInstance hb Bridge.blocks_remove_self (Instance.keeps_removed hs ho hf hb he)⟩
    · exact ⟨⟨0⟩, .kept rfl (hi.effect 0) .none fun _ hr => live_destroyInstance hr hn⟩
  | enumeratePhysicalDevices handle count intoArray =>
    obtain ⟨address, record, array, handles, listed, rfl, hb, hn, hz, -, rfl, he⟩ | ⟨rfl, he⟩ :=
      Instance.runs_enumerate hs h
    · exact ⟨_, .populated hb Bridge.blocks_put_self (Instance.keeps_populated hs ho hf hb hn hz he)⟩
    · exact ⟨⟨0⟩, .kept rfl he .none fun _ _ => live_enumerate he.lifecycle⟩
  | enumerateInstanceExtensions layerNamed countGiven => exact outcome_of_idle (fun _ => rfl) (Action.idle_pure _) h
  | enumerateInstanceLayers countGiven => exact outcome_of_idle (fun _ => rfl) (Action.idle_pure _) h
  | askPhysicalDevice handle query => exact outcome_of_idle (fun _ => rfl) (PhysicalDevice.passive_ask _ _).idle h
  | enumerateDeviceExtensions handle layerNamed countGiven =>
    exact outcome_of_idle (fun _ => rfl) (PhysicalDevice.passive_enumerateExtensions _ _ _).idle h
  | enumerateDeviceLayers handle countGiven =>
    exact outcome_of_idle (fun _ => rfl) (PhysicalDevice.passive_enumerateLayers _ _).idle h
  | createDevice handle info explicit output =>
    obtain ⟨code, stored⟩ := answer
    have few : ∀ wanted ∈ info, wanted.queues.toList.length < 2 ^ 32 := by
      rintro wanted ⟨rfl⟩
      exact queues _ _ _ _ rfl
    obtain ⟨wanted, address, native, physicalDevice, parent, block, built, rfl, rfl, hm⟩ |
      ⟨rfl, rfl, physicalDevice, wanted, parent, context, natives, hparent, he, ha⟩ := Device.runs_create hs callbacks few h
    · have := Device.keeps_new hs ho hf (Allocator.returns_merge hm.free callbacks) (few _ rfl) hm.arrays hm.effect
      exact ⟨_, .createdDevice (Device.apart_new hs ho hf hm.effect) hm (hm.left ▸ this)⟩
    · exact ⟨⟨0⟩, .kept rfl he (.device hparent ha) fun _ _ => live_createDevice⟩
  | destroyDevice handle explicit =>
    obtain ⟨owner, device, hd⟩ | ⟨rfl, hi, hn⟩ := Device.runs_destroy hs ho hf h
    · obtain rfl := hd.handle
      exact ⟨_, .destroyedDevice hd⟩
    · exact ⟨⟨0⟩, .kept rfl (hi.effect 0) .none fun _ hr => live_destroyDevice hr hn⟩
  | askDevice handle request => exact outcome_of_idle (fun _ => rfl) (Device.passive_ask _ _).idle h
  | getQueue handle family index output => exact outcome_of_idle (fun _ => rfl) (Device.passive_getQueue _ _ _ _).idle h
  | waitQueueIdle handle => exact outcome_of_idle (fun _ => rfl) (Queue.passive_waitIdle _).idle h
  | submit handle submissions fence =>
    obtain ⟨rfl, he⟩ := Submission.runs_submit hs h
    exact ⟨⟨0⟩, .kept rfl he .none fun _ _ => rfl⟩
  | createPool handle info explicit =>
    obtain ⟨code, stored⟩ := answer
    have limit (owner : Address) (device : Device) (pool : NativeHandle) (hh : handle = some owner.toHandle)
        (hb : bridge.blocks[owner]? = some (.device device)) (hstored : stored = some pool) :
        device.pools.references pool + 1 < 2 ^ 32 := by
      subst hh hstored
      exact pools owner device info explicit trace code pool hb rfl
    obtain ⟨owner, device, pending, pool, registry, rfl, hm⟩ | ⟨rfl, rfl, natives, he, hn⟩ :=
      CommandPool.runs_create hs callbacks limit h
    · obtain rfl := hm.handle
      exact ⟨_, .createdPool hm (hm.keeps hs ho hf)⟩
    · obtain rfl | ⟨device, parent, context, failure, hparent, rfl⟩ := hn
      · exact ⟨⟨0⟩, .kept rfl he .none fun _ _ => live_createPool⟩
      · exact ⟨⟨0⟩, .kept rfl he (.pool hparent) fun _ _ => live_createPool⟩
  | destroyPool handle pool explicit =>
    have found (owner : Address) (device : Device) (hh : handle = some owner.toHandle)
        (hb : bridge.blocks[owner]? = some (.device device)) (hz : pool ≠ 0) : device.pools.grant? pool ≠ none := by
      subst hh
      exact known owner device pool explicit hb rfl hz
    obtain ⟨owner, device, changed, hz, hd⟩ | ⟨rfl, hi, hn⟩ := CommandPool.runs_destroy hs ho hf found h
    · obtain rfl := hd.handle
      exact ⟨_, .destroyedPool hz hd⟩
    · exact ⟨⟨0⟩, .kept rfl (hi.effect 0) .none fun _ hr => live_destroyPool hr hn⟩
  | allocateCommandBuffers handle request =>
    obtain ⟨code, stored⟩ := answer
    obtain ⟨rfl, hi, rfl, -⟩ | ⟨owner, device, changed, wanted, new, hr, rfl, hnew, hall, -⟩ :=
      CommandBuffer.runs_allocate hs ho hf (bounded.room rfl) h
    · exact ⟨⟨0⟩, .kept rfl (hi.effect 0) .none fun _ _ => live_allocateCommandBuffers⟩
    · obtain rfl := hr.handle
      exact ⟨_, .allocated hr hnew hall⟩
  | freeCommandBuffers handle pool commandBuffers =>
    obtain ⟨rfl, hi, hn, -⟩ | ⟨owner, device, changed, addresses, hr, haddresses, hall, -⟩ :=
      CommandBuffer.runs_freeList hs ho hf (permitted.entries rfl) h
    · exact ⟨⟨0⟩, .kept rfl (hi.effect 0) .none fun _ hr => live_freeCommandBuffers hr hn⟩
    · obtain rfl := hr.handle
      exact ⟨_, .freed hr haddresses hall⟩
  | record handle command => exact outcome_of_idle (fun _ => rfl) (CommandBuffer.idle_record _ _) h
  | execute handle secondaries => exact outcome_of_idle (fun _ => rfl) (CommandBuffer.idle_execute _ _) h
  | createFence handle info explicit =>
    obtain ⟨code, stored⟩ := answer
    have limit (owner : Address) (device : Device) (fence : NativeHandle) (hh : handle = some owner.toHandle)
        (hb : bridge.blocks[owner]? = some (.device device)) (hsome : explicit.isSome) (hstored : stored = some fence) :
        device.fences.references fence + 1 < 2 ^ 32 := by
      obtain ⟨set, rfl⟩ := Option.isSome_iff_exists.1 hsome
      subst hh hstored
      exact fences owner device info set trace code fence hb rfl
    obtain ⟨set, owner, device, pending, fence, registry, rfl, rfl, hm⟩ |
      ⟨owner, device, fence, rfl, rfl, rfl, hb, rfl, rfl⟩ | ⟨rfl, rfl, natives, he, hn⟩ :=
      Fence.runs_create hs callbacks limit h
    · obtain rfl := hm.handle
      exact ⟨_, .createdFence hm (hm.keeps hs ho hf)⟩
    · exact ⟨_, .createdPlainFence hb (hs.keeps_still ho hf rfl (.native rfl 0) owner)⟩
    · obtain rfl | ⟨device, parent, context, failure, hparent, rfl⟩ := hn
      · exact ⟨⟨0⟩, .kept rfl he .none fun _ _ => live_createFence⟩
      · exact ⟨⟨0⟩, .kept rfl he (.fence hparent) fun _ _ => live_createFence⟩
  | destroyFence handle fence explicit =>
    obtain ⟨owner, device, registry, hz, hd⟩ | ⟨rfl, hi, hn⟩ := Fence.runs_destroy hs ho hf h
    · obtain rfl := hd.handle
      exact ⟨_, .destroyedFence hz hd⟩
    · exact ⟨⟨0⟩, .kept rfl (hi.effect 0) .none fun _ hr => live_destroyFence hr hn⟩

end Event

end VulkanBridge
