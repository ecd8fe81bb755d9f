import VulkanBridge.Program
/-!
# The native driver

Each call of the native driver as a program with a result of its own type.
-/

namespace VulkanBridge.Native

variable (callbacks : Option NativeCallbacks)

abbrev createInstance (flags : UInt32) : Program (Except FailureCode NativeHandle) :=
  .native (.createInstance flags callbacks)

abbrev destroyInstance (inst : NativeHandle) : Program Unit := .native (.destroyInstance inst callbacks)

abbrev countPhysicalDevices (inst : NativeHandle) : Program (Except FailureCode UInt32) :=
  .native (.countPhysicalDevices inst)

/-- At most as many handles as there is room for. -/
abbrev listPhysicalDevices (inst : NativeHandle) (capacity : UInt32) :
    Program (Except FailureCode { handles : List NativeHandle // handles.length ≤ capacity.toNat }) :=
  .native (.listPhysicalDevices inst capacity)

abbrev askPhysicalDevice (physicalDevice : NativeHandle) (query : PhysicalDeviceQuery) : Program query.Answer :=
  .native (.askPhysicalDevice physicalDevice query)

abbrev createDevice (physicalDevice : NativeHandle) (info : DeviceInfo) : Program (Except FailureCode NativeHandle) :=
  .native (.createDevice physicalDevice info callbacks)

abbrev destroyDevice (device : NativeHandle) : Program Unit := .native (.destroyDevice device callbacks)

abbrev deviceQueue (device : NativeHandle) (family index : UInt32) : Program NativeHandle :=
  .native (.deviceQueue device family index)

abbrev askDevice (device : NativeHandle) (request : DeviceRequest) : Program ResultCode :=
  .native (.askDevice device request)

abbrev createPool (device : NativeHandle) (info : Option PoolInfo) : Program (Except FailureCode NativeHandle) :=
  .native (.createPool device info callbacks)

abbrev destroyPool (device pool : NativeHandle) : Program Unit := .native (.destroyPool device pool callbacks)

/-- As many command buffers as are asked for. -/
abbrev allocateCommandBuffers (device : NativeHandle) (request : CommandBufferRequest) :
    Program (Except FailureCode (Vector NativeHandle request.count.toNat)) :=
  .native (.allocateCommandBuffers device request)

abbrev freeCommandBuffers (device pool : NativeHandle) (commandBuffers : List NativeHandle) : Program Unit :=
  .native (.freeCommandBuffers device pool commandBuffers)

abbrev record (commandBuffer : NativeHandle) (command : Command) : Program command.Answer :=
  .native (.command commandBuffer command)

abbrev execute (commandBuffer : NativeHandle) (secondaries : List NativeHandle) : Program Unit :=
  .native (.execute commandBuffer secondaries)

abbrev submit (queue : NativeHandle) (submissions : List (Submission NativeHandle)) (fence : NativeHandle) :
    Program ResultCode :=
  .native (.submit queue submissions fence)

abbrev waitQueueIdle (queue : NativeHandle) : Program ResultCode := .native (.waitQueueIdle queue)

abbrev createFence (device : NativeHandle) (info : Option FenceInfo) : Program (Except FailureCode NativeHandle) :=
  .native (.createFence device info callbacks)

abbrev destroyFence (device fence : NativeHandle) : Program Unit := .native (.destroyFence device fence callbacks)

end VulkanBridge.Native
