import VulkanBridge.Proofs.Action
import VulkanBridge.EntryPoint
import VulkanBridge.CommandBuffer.Recording
import VulkanBridge.CommandPool
import VulkanBridge.Device.Lifecycle
import VulkanBridge.Fence
import VulkanBridge.Instance.Enumeration
import VulkanBridge.Instance.Lifecycle
import VulkanBridge.Submission
/-!
# Uses of the driver

A use of the driver is a list of `Event`s, the latest first: calls, each with the trace it left and what it answered.
`Reaches` relates a use to the state it leads to, where a predicate says which events are admitted after which others.

`liveAfter` reads off a use which objects the application holds. It looks at calls and answers only, never at the state, so
that it can be compared with what the driver keeps.
-/

namespace VulkanBridge

/-- A call of the application, with everything it passes. -/
inductive Call where
  | useStaticEntry (used : Bool)
  | negotiateVersion (requested : Option UInt32)
  | resolveInstance (name : Option (List UInt8))
  | resolveDevice (name : Option (List UInt8))
  | createInstance (info : Option InstanceInfo) (explicit : Option CallbackSet) (output : Bool)
  | destroyInstance (handle : Option Handle) (explicit : Option CallbackSet)
  | enumeratePhysicalDevices (handle : Option Handle) (count : Option UInt32) (intoArray : Bool)
  | enumerateInstanceExtensions (layerNamed countGiven : Bool)
  | enumerateInstanceLayers (countGiven : Bool)
  | askPhysicalDevice (handle : Option Handle) (query : PhysicalDeviceQuery)
  | enumerateDeviceExtensions (handle : Option Handle) (layerNamed countGiven : Bool)
  | enumerateDeviceLayers (handle : Option Handle) (countGiven : Bool)
  | createDevice (handle : Option Handle) (info : Option DeviceInfo) (explicit : Option CallbackSet) (output : Bool)
  | destroyDevice (handle : Option Handle) (explicit : Option CallbackSet)
  | askDevice (handle : Option Handle) (request : DeviceRequest)
  | getQueue (handle : Option Handle) (family index : UInt32) (output : Bool)
  | waitQueueIdle (handle : Option Handle)
  | submit (handle : Option Handle) (submissions : Span (Submission (Option Handle))) (fence : NativeHandle)
  | createPool (handle : Option Handle) (info : Option PoolInfo) (explicit : Option CallbackSet)
  | destroyPool (handle : Option Handle) (pool : NativeHandle) (explicit : Option CallbackSet)
  | allocateCommandBuffers (handle : Option Handle) (request : Option CommandBufferRequest)
  | freeCommandBuffers (handle : Option Handle) (pool : NativeHandle) (commandBuffers : Span (Option Handle))
  | record (handle : Option Handle) (command : Command)
  | execute (handle : Option Handle) (secondaries : Span (Option Handle))
  | createFence (handle : Option Handle) (info : Option FenceInfo) (explicit : Option CallbackSet)
  | destroyFence (handle : Option Handle) (fence : NativeHandle) (explicit : Option CallbackSet)

namespace Call

/-- What a call returns and stores. -/
def Answer : Call → Type
  | negotiateVersion _ => ResultCode × Option UInt32
  | resolveInstance _ | resolveDevice _ => Option ExportedFunction
  | createInstance .. | createDevice .. => ResultCode × Option Handle
  | enumeratePhysicalDevices .. => Listing
  | enumerateInstanceExtensions .. | enumerateInstanceLayers _ => ResultCode × Option UInt32
  | askPhysicalDevice _ query => Option query.Answer
  | enumerateDeviceExtensions .. | enumerateDeviceLayers .. => ResultCode × Option UInt32
  | askDevice .. | waitQueueIdle _ | submit .. => ResultCode
  | getQueue .. => Option (Option Handle)
  | createPool .. | createFence .. => ResultCode × Option NativeHandle
  | allocateCommandBuffers .. => ResultCode × Option (List (Option Handle))
  | record _ command => command.Answer
  | useStaticEntry _ | destroyInstance .. | destroyDevice .. | destroyPool .. | freeCommandBuffers .. | execute ..
  | destroyFence .. => Unit

/-- What the driver does at a call. -/
def run : (call : Call) → Action call.Answer
  | useStaticEntry used => modify fun bridge => { bridge with staticEntry := used }
  | negotiateVersion requested => VulkanBridge.negotiateVersion requested
  | resolveInstance name => pure (EntryPoint.resolveInstance name)
  | resolveDevice name => pure (EntryPoint.resolveDevice name)
  | createInstance info explicit output => Instance.create info explicit output
  | destroyInstance handle explicit => Instance.destroy handle explicit
  | enumeratePhysicalDevices handle count intoArray => Instance.enumeratePhysicalDevices handle count intoArray
  | enumerateInstanceExtensions layerNamed countGiven => pure (Instance.enumerateExtensions layerNamed countGiven)
  | enumerateInstanceLayers countGiven => pure (Instance.enumerateLayers countGiven)
  | askPhysicalDevice handle query => PhysicalDevice.ask handle query
  | enumerateDeviceExtensions handle layerNamed countGiven =>
    PhysicalDevice.enumerateExtensions handle layerNamed countGiven
  | enumerateDeviceLayers handle countGiven => PhysicalDevice.enumerateLayers handle countGiven
  | createDevice handle info explicit output => Device.create handle info explicit output
  | destroyDevice handle explicit => Device.destroy handle explicit
  | askDevice handle request => Device.ask handle request
  | getQueue handle family index output => Device.getQueue handle family index output
  | waitQueueIdle handle => Queue.waitIdle handle
  | submit handle submissions fence => Submission.submit handle submissions fence
  | createPool handle info explicit => CommandPool.create handle info explicit
  | destroyPool handle pool explicit => CommandPool.destroy handle pool explicit
  | allocateCommandBuffers handle request => CommandBuffer.allocate handle request
  | freeCommandBuffers handle pool commandBuffers => CommandBuffer.freeList handle pool commandBuffers
  | record handle command => CommandBuffer.record handle command
  | execute handle secondaries => CommandBuffer.execute handle secondaries
  | createFence handle info explicit => Fence.create handle info explicit
  | destroyFence handle fence explicit => Fence.destroy handle fence explicit

/-- The callbacks that an object is to be created with. -/
def explicit? : Call → Option CallbackSet
  | createInstance _ explicit _ | createDevice _ _ explicit _ | createPool _ _ explicit | createFence _ _ explicit => explicit
  | _ => none

end Call

/-- A call with the trace it left and its answer. -/
structure Event where
  call : Call
  trace : Trace
  answer : call.Answer

/-- The event leads from one state to another. -/
def Event.Leads (before : Bridge) (event : Event) (after : Bridge) : Prop :=
  event.call.run.Runs before event.trace event.answer after

/-- A use leads from the initial state to this one, each of its events admitted after those before it. -/
inductive Reaches (Admits : List Event → Event → Prop) : List Event → Bridge → Prop
  | initial : Reaches Admits [] .initial
  | step {history : List Event} {before after : Bridge} {event : Event} :
      Reaches Admits history before → Admits history event → event.Leads before after →
        Reaches Admits (event :: history) after

/-- What the driver asked for over a whole use, in order. -/
def traceOf : List Event → Trace
  | [] => []
  | event :: history => traceOf history ++ event.trace

@[simp] theorem traceOf_cons (event : Event) (history : List Event) :
    traceOf (event :: history) = traceOf history ++ event.trace := rfl

theorem Reaches.mono {Admits Admits' : List Event → Event → Prop} {history : List Event} {bridge : Bridge}
    (h : Reaches Admits history bridge) (hm : ∀ history event, Admits history event → Admits' history event) :
    Reaches Admits' history bridge := by
  induction h with
  | initial => exact .initial
  | step _ ha hl ih => exact .step ih (hm _ _ ha) hl

/-- The events so far of a use are a use. -/
theorem Reaches.exists_before {Admits : List Event → Event → Prop} {later earlier : List Event} {bridge : Bridge}
    (h : Reaches Admits (later ++ earlier) bridge) : ∃ before, Reaches Admits earlier before := by
  induction later generalizing bridge with
  | nil => exact ⟨bridge, h⟩
  | cons event later ih =>
    cases h with
    | step h _ _ => exact ih h

/-- A use leads to one state only. -/
theorem Reaches.unique {Admits : List Event → Event → Prop} {history : List Event} {bridge bridge' : Bridge}
    (h : Reaches Admits history bridge) (h' : Reaches Admits history bridge') : bridge = bridge' := by
  induction h generalizing bridge' with
  | initial =>
    cases h'
    rfl
  | step _ _ hl ih =>
    cases h' with
    | step h' _ hl' =>
      obtain rfl := ih h'
      exact (Action.Runs.unique hl hl').2

/-! ## Objects of the application -/

/-- An object that the application created, with the callbacks it passed. An instance also has the number of physical
devices that its array was made for, once they have been listed. -/
inductive Object where
  | inst (handle : Handle) (explicit : Option CallbackSet) (listed : Option UInt32)
  | device (handle : Handle) (explicit : Option CallbackSet) (queues : List QueueRequest)
  | pool (device : Handle) (pool : NativeHandle) (explicit : Option CallbackSet)
  | commandBuffer (device : Handle) (pool : NativeHandle) (handle : Handle)
  | fence (device : Handle) (fence : NativeHandle) (explicit : Option CallbackSet)
  deriving DecidableEq

namespace Object

/-- The instance or device that goes with the object. -/
def owner : Object → Handle
  | inst handle .. | device handle .. | pool handle .. | commandBuffer handle .. | fence handle .. => handle

def isInst : Object → Bool
  | inst .. => true
  | _ => false

/-- The object is a pool of this handle. -/
def isPool (handle : NativeHandle) : Object → Bool
  | pool _ found _ => found = handle
  | _ => false

/-- The object is a command buffer of a pool of this handle. -/
def isCommandBuffer (pool : NativeHandle) : Object → Bool
  | commandBuffer _ found _ => found = pool
  | _ => false

/-- The object is a fence of this handle. -/
def isFence (handle : NativeHandle) : Object → Bool
  | fence _ found _ => found = handle
  | _ => false

/-- The object is a pool of this handle, or a command buffer of one. -/
def refersTo (pool : NativeHandle) (object : Object) : Bool := object.isPool pool || object.isCommandBuffer pool

/-- The object with its physical devices listed, if it is this instance. -/
def list (handle : Handle) (capacity : UInt32) : Object → Object
  | inst found explicit listed => inst found explicit (if found = handle then some capacity else listed)
  | object => object

/-- The pool and the place of a command buffer. -/
def commandBuffer? : Object → Option (NativeHandle × Handle)
  | commandBuffer _ found handle => some (found, handle)
  | _ => none

end Object

/-- The objects that a device has a registry for. -/
inductive Child where
  | pool
  | fence
  deriving DecidableEq

namespace Child

/-- The registry for these objects. -/
def registry : Child → Device → Registry
  | pool, device => device.pools
  | fence, device => device.fences

/-- The object is one of these, and has this handle. -/
def describes : Child → NativeHandle → Object → Bool
  | pool, handle => Object.isPool handle
  | fence, handle => Object.isFence handle

end Child

/-- The number of physical devices that the native driver had room to list, if it listed them. -/
def Exchange.listed? : Exchange → Option UInt32
  | ⟨.native (.listPhysicalDevices _ capacity), .ok _⟩ => some capacity
  | _ => none

/-- The objects left after an event, of those that were live before it. Destroying null destroys nothing. -/
def Event.live (live : List Object) : Event → List Object
  | ⟨.createInstance _ explicit _, _, (_, some handle)⟩ => .inst handle explicit none :: live
  | ⟨.destroyInstance (some handle) _, _, _⟩ => live.filter fun object => !(object.isInst && object.owner = handle)
  | ⟨.enumeratePhysicalDevices (some handle) _ _, trace, _⟩ =>
    (trace.findSome? Exchange.listed?).elim live fun capacity => live.map (·.list handle capacity)
  | ⟨.createDevice _ (some info) explicit _, _, (_, some handle)⟩ => .device handle explicit info.queues.toList :: live
  | ⟨.destroyDevice (some handle) _, _, _⟩ => live.filter fun object => object.isInst || object.owner ≠ handle
  | ⟨.createPool (some device) _ explicit, _, (_, some pool)⟩ => .pool device pool explicit :: live
  | ⟨.destroyPool (some device) pool _, _, _⟩ =>
    if pool = 0 then live
    else (live.eraseP fun object => object.isPool pool && object.owner = device).filter fun object =>
      !(object.isCommandBuffer pool && object.owner = device)
  | ⟨.allocateCommandBuffers (some device) (some request), _, (_, some stored)⟩ =>
    (stored.filterMap id).map (.commandBuffer device request.pool) ++ live
  | ⟨.freeCommandBuffers (some device) pool commandBuffers, _, _⟩ =>
    live.filter fun object =>
      !((commandBuffers.toList.filterMap id).any fun handle => object = .commandBuffer device pool handle)
  | ⟨.createFence (some device) _ explicit, _, (_, some fence)⟩ => .fence device fence explicit :: live
  | ⟨.destroyFence (some device) fence _, _, _⟩ =>
    if fence = 0 then live else live.eraseP fun object => object.isFence fence && object.owner = device
  | _ => live

/-- The objects that are live after a use, the latest first. -/
def liveAfter : List Event → List Object
  | [] => []
  | event :: history => event.live (liveAfter history)

/-- The live objects of one instance or device. -/
def objectsOf (owner : Handle) (live : List Object) : Multiset Object :=
  (live : Multiset Object).filter fun object => object.owner = owner

end VulkanBridge
