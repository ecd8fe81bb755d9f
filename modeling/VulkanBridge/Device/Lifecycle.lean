import VulkanBridge.CommandBuffer.Release
import VulkanBridge.Device.Queues
import VulkanBridge.Native.Library
/-!
# Creating and destroying devices

A device is created in steps: its record's memory, the native device, the native device's entry points, the
queues. As with instances, a step that fails undoes the steps before it.

A device that is destroyed takes along what is left of its children, in a fixed order: the native device
first, then command buffers by pool and place, the queues, what the registries still hold, and the record.
-/

namespace VulkanBridge

/-- A device with the records of its queues, before it is part of the state. -/
structure BuiltDevice where
  address : Address
  record : Device
  queues : List (Address × Array Queue)

namespace Device

/-- Undo the creation of a native device that lacks entry points. -/
def abandonNative (native : NativeHandle) (callbacks : Option NativeCallbacks) : Program Unit :=
  NativeLibrary.abandon (NativeLibrary.hasDeviceEntry native "vkDestroyDevice")
    (Native.destroyDevice callbacks native) (.deviceLeaked native)

/-- The native device and the families of a record at `storage`. -/
def createNative (physicalDevice : NativeHandle) (info : DeviceInfo) (allocator : Allocator) (storage : Address) :
    Program (Except CallError (NativeHandle × Option Address × List BuiltFamily)) := do
  let callbacks := allocator.nativeCallbacks (.record storage)
  match ← Native.createDevice callbacks physicalDevice info with
  | .error code => pure (.error (.native code))
  | .ok native =>
    match ← NativeLibrary.requireAll (NativeLibrary.hasDeviceEntry native) deviceNames with
    | .error error =>
      abandonNative native callbacks
      pure (.error error)
    | .ok () =>
      match ← QueueFamily.build allocator storage native info.queues.toList with
      | .error error =>
        Native.destroyDevice callbacks native
        pure (.error error)
      | .ok (block, built) => pure (.ok (native, block, built))

/-- Build a device of a physical device whose instance has the allocator `parent`. -/
def build (physicalDevice : NativeHandle) (parent : Allocator) (info : DeviceInfo) (explicit : Option CallbackSet) :
    Program (Except CallError BuiltDevice) := do
  match CallError.ofUnsupported info.layers info.extensions with
  | some error => pure (.error error)
  | none =>
    let allocator := Allocator.merge explicit parent
    match ← allocator.allocateObject .device .device with
    | .error error => pure (.error error)
    | .ok storage =>
      match ← createNative physicalDevice info allocator storage with
      | .error error =>
        allocator.freeObject .device storage
        pure (.error error)
      | .ok (native, block, built) =>
        .notice (.deviceCreated native built.length)
        pure (.ok {
          address := storage
          record := {
            header := .new .device
            native
            allocator
            families := built.map (·.family)
            familyBlock := block
            pools := .empty
            fences := .empty
            commandBuffers := ∅ }
          queues := built.filterMap fun entry => entry.family.queues.map (·, entry.queues) })

/-- Create a device. `output` says whether the caller has a place for its handle; the second result is what
is stored there. -/
def create (handle : Option Handle) (info : Option DeviceInfo) (explicit : Option CallbackSet) (output : Bool) :
    Action (ResultCode × Option Handle) := do
  match info, output with
  | some info, true =>
    match ← resolve .physicalDevice handle with
    | .error error => pure (error.result, none)
    | .ok (_, physicalDevice) =>
      let parent := ((← get).record? .inst physicalDevice.inst.toHandle).elim .system (·.allocator)
      match ← build physicalDevice.native parent info explicit with
      | .ok built =>
        modify fun bridge => built.queues.foldl (fun bridge entry => bridge.put entry.1 (.queues entry.2))
          (bridge.put built.address (.device built.record))
        pure (.success, some built.address.toHandle)
      | .error error =>
        Program.notice (.createFailed "vkCreateDevice" error)
        pure (error.result, none)
  | _, _ => pure (.initializationFailed, none)

/-- Put a request to a device that answers with a code only. -/
def ask (handle : Option Handle) (request : DeviceRequest) : Action ResultCode := do
  match ← resolve .device handle with
  | .error error => pure error.deviceResult
  | .ok (_, device) => Native.askDevice device.native request

/-- Destroy a device, with the explicit callbacks merged over its own allocator for the native side. Null is
ignored. -/
def destroy (handle : Option Handle) (explicit : Option CallbackSet) : Action Unit := do
  match handle with
  | none => pure ()
  | some handle =>
    match ← resolve .device (some handle) with
    | .error _ => pure ()
    | .ok (handle, device) =>
      let callbacks := (Allocator.merge explicit device.allocator).nativeCallbacks .call
      Native.destroyDevice callbacks device.native
      if device.commandBuffers.isEmpty then pure ()
      else Program.notice (.commandBuffersLeft device.commandBuffers.size)
      let device ← CommandBuffer.drain (fun _ => true) device
      QueueFamily.freeAll device.allocator device.familyBlock device.families device.families.length.toUInt64
      device.pools.drop
      device.fences.drop
      device.allocator.freeObject .device handle.block
      modify fun bridge =>
        (device.families.foldl (fun bridge family => bridge.remove? family.queues) bridge).remove handle.block

end Device

end VulkanBridge
