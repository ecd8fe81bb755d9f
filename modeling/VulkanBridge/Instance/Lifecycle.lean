import VulkanBridge.Bridge
import VulkanBridge.Native.Library
/-!
# Creating and destroying instances

An instance is created in steps: its record's memory, the native library, the native instance, the native
instance's entry points. A step that fails undoes those before it, so that a failed creation leaves nothing
behind. The native instance calls back through the allocator in the record, which is in place from the
first step to the last. The native library of an instance is closed with it, or when its creation fails; this shows
in no answer and is left out.
-/

namespace VulkanBridge.Instance

/-- The record of a new instance. -/
def new (native : NativeHandle) (allocator : Allocator) : Instance :=
  ⟨.new .inst, native, allocator, none⟩

/-- Undo the creation of a native instance that lacks entry points. -/
def abandonNative (native : NativeHandle) (callbacks : Option NativeCallbacks) : Program Unit :=
  NativeLibrary.abandon (NativeLibrary.hasInstanceEntry native "vkDestroyInstance")
    (Native.destroyInstance callbacks native) (.instanceLeaked native)

/-- The native instance of a record, through the native library. -/
def createNative (staticEntry : Bool) (library : Option String) (flags : UInt32)
    (callbacks : Option NativeCallbacks) : Program (Except CallError NativeHandle) := do
  match ← NativeLibrary.load staticEntry library with
  | .error error => pure (.error error)
  | .ok () =>
    match ← NativeLibrary.requireAll (NativeLibrary.hasInstanceEntry 0) globalNames with
    | .error error => pure (.error error)
    | .ok () =>
      match ← Native.createInstance callbacks flags with
      | .error code => pure (.error (.native code))
      | .ok native =>
        match ← NativeLibrary.requireAll (NativeLibrary.hasInstanceEntry native) instanceNames with
        | .ok () => pure (.ok native)
        | .error error =>
          abandonNative native callbacks
          pure (.error error)

/-- Build an instance, as its record and the place of it. -/
def build (staticEntry : Bool) (library : Option String) (info : InstanceInfo) (explicit : Option CallbackSet) :
    Program (Except CallError (Address × Instance)) := do
  match CallError.ofUnsupported info.layers info.extensions with
  | some error => pure (.error error)
  | none =>
    let allocator := Allocator.merge explicit .system
    match ← allocator.allocateObject .instanceRecord .inst with
    | .error error => pure (.error error)
    | .ok storage =>
      match ← createNative staticEntry library info.flags (allocator.nativeCallbacks (.record storage)) with
      | .ok native => pure (.ok (storage, new native allocator))
      | .error error =>
        allocator.freeObject .instanceRecord storage
        pure (.error error)

/-- Create an instance. `output` says whether the caller has a place for its handle; the second result is
what is stored there. -/
def create (info : Option InstanceInfo) (explicit : Option CallbackSet) (output : Bool) :
    Action (ResultCode × Option Handle) := do
  let config ← configuration
  match info, output with
  | some info, true =>
    match ← build (← get).staticEntry config.library info explicit with
    | .ok (address, record) =>
      modify (·.put address (.inst record))
      pure (.success, some address.toHandle)
    | .error error =>
      Program.notice (.createFailed "vkCreateInstance" error)
      pure (error.result, none)
  | _, _ => pure (.initializationFailed, none)

/-- Destroy an instance, with the explicit callbacks merged over its own allocator for the native side.
Null is ignored. -/
def destroy (handle : Option Handle) (explicit : Option CallbackSet) : Action Unit := do
  match handle with
  | none => pure ()
  | some handle =>
    match ← resolve .inst (some handle) with
    | .error _ => pure ()
    | .ok (handle, record) =>
      let callbacks := (Allocator.merge explicit record.allocator).nativeCallbacks .call
      Native.destroyInstance callbacks record.native
      match record.physicalDevices with
      | none => pure ()
      | some array =>
        record.allocator.freeArray .physicalDevice array.capacity.toUInt64 (some array.block)
        modify (·.remove array.block)
      record.allocator.freeObject .instanceRecord handle.block
      modify (·.remove handle.block)

end VulkanBridge.Instance
