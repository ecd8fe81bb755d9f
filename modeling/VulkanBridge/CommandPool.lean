import VulkanBridge.CommandBuffer.Release
/-!
# Command pools

A pool is known by its native handle, and the device's registry remembers its allocator.
-/

namespace VulkanBridge.CommandPool

/-- Create a command pool, with the explicit callbacks merged over the device's allocator. The second
result is the handle stored for the caller. -/
def create (handle : Option Handle) (info : Option PoolInfo) (explicit : Option CallbackSet) :
    Action (ResultCode × Option NativeHandle) := do
  match ← resolve .device handle with
  | .error error => pure (error.deviceResult, none)
  | .ok (handle, device) =>
    device.pools.enter (Allocator.merge explicit device.allocator) (Native.createPool · device.native info)
      fun pools bridge => bridge.put handle.block (.device { device with pools })

/-- Destroy a command pool and the command buffers that are left of it, in the order of their places. The
explicit callbacks are merged over the allocator recorded for the pool. Null is ignored. -/
def destroy (handle : Option Handle) (pool : NativeHandle) (explicit : Option CallbackSet) : Action Unit := do
  if pool = 0 then pure ()
  else
    match ← resolve .device handle with
    | .error _ => pure ()
    | .ok (handle, device) =>
      let base := (device.pools.get? pool).getD device.allocator
      let callbacks := (Allocator.merge explicit base).nativeCallbacks .call
      Native.destroyPool callbacks device.native pool
      let device ← CommandBuffer.drain (CommandBuffer.ofPool pool) device
      let pools ← device.pools.release pool
      modify (·.put handle.block (.device { device with pools }))

end VulkanBridge.CommandPool
