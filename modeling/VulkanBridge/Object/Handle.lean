import VulkanBridge.Memory.Allocator
/-!
# Handles

Five kinds of object are dispatchable: their handle is the place of a record whose first word belongs to
the loader, and whose second holds a tag of the record's kind. A handle that comes back in is accepted
only if the tag is that of the kind the call needs.
-/

namespace VulkanBridge

/-- A handle of the native driver; zero is its null. -/
abbrev NativeHandle := UInt64

/-- The place of a record: a block of memory, and which record of the block it is. -/
structure Handle where
  block : Address
  slot : Nat
  deriving DecidableEq

/-- The kinds of dispatchable object. -/
inductive ObjectKind where
  | inst
  | physicalDevice
  | device
  | queue
  | commandBuffer
  deriving DecidableEq

namespace ObjectKind

/-- The tag that records of a kind carry. -/
def tag : ObjectKind → UInt32
  | inst => 0x10570001
  | physicalDevice => 0x10570002
  | device => 0x10570003
  | queue => 0x10570004
  | commandBuffer => 0x10570005

def name : ObjectKind → String
  | inst => "instance"
  | physicalDevice => "physical device"
  | device => "device"
  | queue => "queue"
  | commandBuffer => "command buffer"

end ObjectKind

/-- The front of every dispatchable record. -/
structure Header where
  /-- The loader's word, which it overwrites as it likes. -/
  loader : UInt64
  tag : UInt32
  deriving DecidableEq

namespace Header

/-- What the loader expects to find in a new object. -/
def loaderMagic : UInt64 := 0x01cdc0de

/-- The header of a new record. -/
def new (kind : ObjectKind) : Header := ⟨loaderMagic, kind.tag⟩

end Header

end VulkanBridge
