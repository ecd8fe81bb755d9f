/-!
# Memory layouts

A `Layout` is a size and an alignment in 64-bit words of bytes. No block may reach half the address
space: at alignment `a` its size is at most `2^63 - a`, so that rounding up to the alignment stays below.
Arrays and concatenations are refused, never wrapped, when they would pass that limit.
-/

namespace VulkanBridge

/-- The size and alignment of a block. -/
structure Layout where
  size : UInt64
  alignment : UInt64
  deriving DecidableEq

namespace Layout

/-- The largest size at an alignment. -/
def limit (alignment : UInt64) : UInt64 := 0x8000000000000000 - alignment

/-- One bit is set. -/
def isPowerOfTwo (n : UInt64) : Bool := n != 0 && n &&& (n - 1) == 0

/-- A layout of these measures, if one exists. -/
def ofSize? (size alignment : UInt64) : Option Layout :=
  if isPowerOfTwo alignment ∧ size ≤ limit alignment then some ⟨size, alignment⟩ else none

/-- The layout of `length` elements, one after another. -/
def array? (element : Layout) (length : UInt64) : Option Layout :=
  if element.size ≠ 0 ∧ limit element.alignment / element.size < length then none
  else some ⟨element.size * length, element.alignment⟩

/-- The first multiple of `alignment` that is not below `size`. -/
def roundUp (size alignment : UInt64) : UInt64 := (size + (alignment - 1)) &&& ~~~(alignment - 1)

/-- One layout after another, with the offset of the second. -/
def extend? (first second : Layout) : Option (Layout × UInt64) :=
  let offset := roundUp first.size second.alignment
  let size := offset + second.size
  let alignment := if first.alignment < second.alignment then second.alignment else first.alignment
  if size < offset then none else (ofSize? size alignment).map (·, offset)

/-! ## Records of the driver -/

/-- The record of an instance. -/
def instanceRecord : Layout := ⟨208, 8⟩

/-- The record of a physical device. -/
def physicalDevice : Layout := ⟨32, 8⟩

/-- The record of a device. -/
def device : Layout := ⟨360, 8⟩

/-- The record of a queue. -/
def queue : Layout := ⟨32, 8⟩

/-- The record of a queue family. -/
def queueFamily : Layout := ⟨16, 8⟩

/-- The record of a command buffer. -/
def commandBuffer : Layout := ⟨40, 8⟩

/-- The record of an entry of the allocator registry. -/
def registryEntry : Layout := ⟨72, 8⟩

/-- A handle of the native driver. -/
def nativeHandle : Layout := ⟨8, 8⟩

/-- A description of one submission. -/
def submission : Layout := ⟨72, 8⟩

end Layout

end VulkanBridge
