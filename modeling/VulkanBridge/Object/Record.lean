import VulkanBridge.Registry
import Std.Data.ExtTreeSet
/-!
# Records behind handles

Each dispatchable object has a record in a block of memory. Instances, devices and command buffers have a
block each; the physical devices of an instance and the queues of one family share a block, in which each
has a slot. A `Block` may also be foreign: a record that some caller made up, with a header like any other.
-/

namespace VulkanBridge

/-- The physical devices of an instance: their block, the number of records it was allocated for, and how
many of them there are. -/
structure PhysicalDeviceArray where
  block : Address
  capacity : UInt32
  count : UInt32
  deriving DecidableEq

structure Instance where
  header : Header
  native : NativeHandle
  /-- The allocator of the instance; the native instance's callbacks forward to this copy. -/
  allocator : Allocator
  /-- Unset until the physical devices are first listed, and never changed after. -/
  physicalDevices : Option PhysicalDeviceArray

structure PhysicalDevice where
  header : Header
  /-- The record of the instance it belongs to. -/
  inst : Address
  native : NativeHandle

/-- The queues of one family, as requested when the device was created. -/
structure QueueFamily where
  index : UInt32
  count : UInt32
  /-- The block of the queues' records; a family without queues has none. -/
  queues : Option Address
  deriving DecidableEq

structure Queue where
  header : Header
  device : Address
  native : NativeHandle

structure CommandBuffer where
  header : Header
  device : Address
  pool : NativeHandle
  native : NativeHandle

/-- A live command buffer of a device: its pool and the block of its record, ordered by both. -/
abbrev LiveCommandBuffers :=
  Std.ExtTreeSet (NativeHandle × Address) (@compare (NativeHandle × Address) lexOrd)

structure Device where
  header : Header
  native : NativeHandle
  /-- The allocator of the device; the native device's callbacks forward to this copy. -/
  allocator : Allocator
  families : List QueueFamily
  /-- The block of the family records; a device without families has none. -/
  familyBlock : Option Address
  /-- Allocators of command pools. -/
  pools : Registry
  /-- Allocators of the fences that were created with explicit callbacks. -/
  fences : Registry
  commandBuffers : LiveCommandBuffers

/-- A block of memory with records in it. -/
inductive Block where
  | inst (record : Instance)
  | physicalDevices (records : Array PhysicalDevice)
  | device (record : Device)
  | queues (records : Array Queue)
  | commandBuffer (record : CommandBuffer)
  | foreign (header : Header)

namespace ObjectKind

/-- The records of a kind. -/
abbrev Record : ObjectKind → Type
  | inst => Instance
  | physicalDevice => PhysicalDevice
  | device => Device
  | queue => Queue
  | commandBuffer => CommandBuffer

end ObjectKind

namespace Block

/-- The header of the record in a slot. -/
def header? : Block → (slot : Nat) → Option Header
  | inst record, 0 => some record.header
  | physicalDevices records, slot => records[slot]?.map (·.header)
  | device record, 0 => some record.header
  | queues records, slot => records[slot]?.map (·.header)
  | commandBuffer record, 0 => some record.header
  | foreign header, 0 => some header
  | _, _ => none

/-- The block with another header in a slot. -/
def setHeader (header : Header) : Block → (slot : Nat) → Block
  | inst record, _ => inst { record with header }
  | physicalDevices records, slot => physicalDevices (records.modify slot fun record => { record with header })
  | device record, _ => device { record with header }
  | queues records, slot => queues (records.modify slot fun record => { record with header })
  | commandBuffer record, _ => commandBuffer { record with header }
  | foreign _, _ => foreign header

/-- The record of a kind in a slot. -/
def record? : (kind : ObjectKind) → Block → (slot : Nat) → Option kind.Record
  | .inst, inst record, 0 => some record
  | .physicalDevice, physicalDevices records, slot => records[slot]?
  | .device, device record, 0 => some record
  | .queue, queues records, slot => records[slot]?
  | .commandBuffer, commandBuffer record, 0 => some record
  | _, _, _ => none

end Block

end VulkanBridge
