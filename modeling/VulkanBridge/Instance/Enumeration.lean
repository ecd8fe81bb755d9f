import VulkanBridge.Bridge
/-!
# Listing physical devices

The physical devices of an instance are asked of the native driver when they are first listed, and from
then on every listing shows the same records. The first listing either completes or leaves the instance as
it was, so that the next one starts over. A native driver without devices is asked again each time.

No layers and no extensions are advertised.
-/

namespace VulkanBridge

namespace Instance

/-- Ask the native driver for its devices and find room for their records: the array, and the native
handles. The scratch memory for the handles is given back in any case. -/
def discover (inst : Instance) : Program (Except CallError (Option (PhysicalDeviceArray × List NativeHandle))) := do
  match ← Native.countPhysicalDevices inst.native with
  | .error code => pure (.error (.native code))
  | .ok capacity =>
    if capacity = 0 then pure (.ok none)
    else
      match ← inst.allocator.allocateElements .nativeHandle capacity.toUInt64 .command with
      | .error error => pure (.error error)
      | .ok scratch =>
        match ← inst.allocator.allocateElements .physicalDevice capacity.toUInt64 .inst with
        | .error error =>
          inst.allocator.freeArray .nativeHandle capacity.toUInt64 (some scratch)
          pure (.error error)
        | .ok block =>
          match ← Native.listPhysicalDevices inst.native capacity with
          | .ok handles =>
            inst.allocator.freeArray .nativeHandle capacity.toUInt64 (some scratch)
            pure (.ok (some (⟨block, capacity, handles.val.length.toUInt32⟩, handles.val)))
          | .error code =>
            inst.allocator.freeArray .physicalDevice capacity.toUInt64 (some block)
            inst.allocator.freeArray .nativeHandle capacity.toUInt64 (some scratch)
            pure (.error (.native code))

/-- The records of discovered devices. -/
def physicalDeviceRecords (address : Address) (handles : List NativeHandle) : Array PhysicalDevice :=
  (handles.map fun native => ⟨.new .physicalDevice, address, native⟩).toArray

/-- The physical devices of an instance, discovered on first use. -/
def obtainPhysicalDevices (address : Address) (inst : Instance) :
    Action (Except CallError (Option PhysicalDeviceArray)) := do
  match inst.physicalDevices with
  | some array => pure (.ok (some array))
  | none =>
    match ← inst.discover with
    | .error error => pure (.error error)
    | .ok none => pure (.ok none)
    | .ok (some (array, handles)) =>
      modify (·.put array.block (.physicalDevices (physicalDeviceRecords address handles)))
      modify (·.put address (.inst { inst with physicalDevices := some array }))
      pure (.ok (some array))

end Instance

/-- What a listing of handles reports: a code, the count stored, and the handles stored in order. -/
structure Listing where
  result : ResultCode
  count : Option UInt32
  handles : List Handle

namespace Instance

/-- List the physical devices: their number, or as many handles as the caller has room for. A null count
is `none`; `intoArray` says whether there is an array for the handles. -/
def enumeratePhysicalDevices (handle : Option Handle) (count : Option UInt32) (intoArray : Bool) : Action Listing := do
  match count with
  | none => pure ⟨.initializationFailed, none, []⟩
  | some capacity =>
    match ← resolve .inst handle with
    | .error error => pure ⟨error.result, none, []⟩
    | .ok (handle, record) =>
      match ← obtainPhysicalDevices handle.block record with
      | .error error => pure ⟨error.result, none, []⟩
      | .ok array =>
        let total := array.elim 0 (·.count)
        if !intoArray then pure ⟨.success, some total, []⟩
        else
          let written := if capacity < total then capacity else total
          let handles := array.elim [] fun array => (List.range written.toNat).map (⟨array.block, ·⟩)
          pure ⟨if written < total then .incomplete else .success, some written, handles⟩

/-- List the extensions of this driver, or of a layer. There are no layers, and no extensions. The second
result is the count stored. -/
def enumerateExtensions (layerNamed countGiven : Bool) : ResultCode × Option UInt32 :=
  if !countGiven then (.initializationFailed, none)
  else if layerNamed then (.layerNotPresent, none)
  else (.success, some 0)

/-- List the layers of this driver: none. -/
def enumerateLayers (countGiven : Bool) : ResultCode × Option UInt32 :=
  if countGiven then (.success, some 0) else (.initializationFailed, none)

end Instance

namespace PhysicalDevice

/-- Put a question about a physical device to the native driver. Nothing is answered for a handle of
another kind. -/
def ask (handle : Option Handle) (query : PhysicalDeviceQuery) : Action (Option query.Answer) := do
  match ← resolve .physicalDevice handle with
  | .error _ => pure none
  | .ok (_, record) =>
    some <$> Native.askPhysicalDevice record.native query

/-- List the extensions of a physical device, or of a layer. -/
def enumerateExtensions (handle : Option Handle) (layerNamed countGiven : Bool) :
    Action (ResultCode × Option UInt32) := do
  match ← validate .physicalDevice handle with
  | .error error => pure (error.result, none)
  | .ok _ => pure (Instance.enumerateExtensions layerNamed countGiven)

/-- List the layers of a physical device. -/
def enumerateLayers (handle : Option Handle) (countGiven : Bool) : Action (ResultCode × Option UInt32) := do
  match ← validate .physicalDevice handle with
  | .error error => pure (error.result, none)
  | .ok _ => pure (Instance.enumerateLayers countGiven)

end PhysicalDevice

end VulkanBridge
