import VulkanBridge.Bridge
/-!
# Fences

A fence is known by its native handle. Without explicit callbacks the native fence calls back through the
device's own allocator, and nothing has to be remembered. Explicit callbacks have to outlive the call, so
they get an entry in the device's registry of fences.
-/

namespace VulkanBridge.Fence

/-- Create a fence. The second result is the handle stored for the caller. -/
def create (handle : Option Handle) (info : Option FenceInfo) (explicit : Option CallbackSet) :
    Action (ResultCode × Option NativeHandle) := do
  match ← resolve .device handle with
  | .error error => pure (error.deviceResult, none)
  | .ok (handle, device) =>
    match explicit with
    | none =>
      let callbacks := device.allocator.nativeCallbacks (.record handle.block)
      match ← Native.createFence callbacks device.native info with
      | .error code => pure (code.val, none)
      | .ok fence => pure (.success, some fence)
    | some set =>
      device.fences.enter (Allocator.merge (some set) device.allocator) (Native.createFence · device.native info)
        fun fences bridge => bridge.put handle.block (.device { device with fences })

/-- Destroy a fence. The explicit callbacks are merged over the allocator recorded for the fence or, if none
is, over the device's. Null is ignored. -/
def destroy (handle : Option Handle) (fence : NativeHandle) (explicit : Option CallbackSet) : Action Unit := do
  if fence = 0 then pure ()
  else
    match ← resolve .device handle with
    | .error _ => pure ()
    | .ok (handle, device) =>
      let base := (device.fences.get? fence).getD device.allocator
      let callbacks := (Allocator.merge explicit base).nativeCallbacks .call
      Native.destroyFence callbacks device.native fence
      if device.fences.contains fence then
        let fences ← device.fences.release fence
        modify (·.put handle.block (.device { device with fences }))
      else pure ()

end VulkanBridge.Fence
