import VulkanBridge.Memory.Allocation
import Std.Data.ExtTreeMap
/-!
# The allocator registry

Calls that release a child object do not say which allocator made it, so the registry remembers: per raw
handle the allocator and a count of references. An entry lies in memory of the allocator it records, and is
given back to that allocator with the last reference. `prepare` makes an entry before its handle is known;
the entry then goes into the registry (`insert`) or is given up (`discard`). The handle's first allocator is
kept for as long as the handle has references, whatever later entries record.

Counts are 32-bit words.
-/

namespace VulkanBridge

namespace Registry

/-- What is remembered of a handle. -/
structure Entry where
  allocator : Allocator
  references : UInt32
  /-- Where the entry lies. -/
  address : Address
  deriving DecidableEq

/-- An entry that waits for its handle. -/
structure Pending where
  allocator : Allocator
  address : Address
  deriving DecidableEq

/-- Callbacks for the native driver that forward to the entry's own copy. -/
def Pending.nativeCallbacks (pending : Pending) : Option NativeCallbacks :=
  pending.allocator.nativeCallbacks (.record pending.address)

end Registry

/-- Entries by raw handle. -/
structure Registry where
  entries : Std.ExtTreeMap UInt64 Registry.Entry

namespace Registry

def empty : Registry := ⟨∅⟩

def get? (registry : Registry) (handle : UInt64) : Option Allocator :=
  registry.entries[handle]?.map (·.allocator)

def references? (registry : Registry) (handle : UInt64) : Option UInt32 :=
  registry.entries[handle]?.map (·.references)

def contains (registry : Registry) (handle : UInt64) : Bool := registry.entries.contains handle

def size (registry : Registry) : Nat := registry.entries.size

/-- Give the memory of an entry back. -/
def freeEntry (allocator : Allocator) (address : Address) : Program Unit :=
  allocator.freeObject .registryEntry address

/-- An entry for a handle that does not exist yet. -/
def prepare (allocator : Allocator) (scope : Scope) : Program (Except CallError Pending) := do
  match ← allocator.allocateObject .registryEntry scope with
  | .ok address => pure (.ok ⟨allocator, address⟩)
  | .error error => pure (.error error)

/-- Give up an entry that got no handle. -/
def discard (pending : Pending) : Program Unit := freeEntry pending.allocator pending.address

/-- The registry with one more reference to a known entry. -/
def retain (registry : Registry) (handle : UInt64) (entry : Entry) : Registry :=
  ⟨registry.entries.insert handle { entry with references := entry.references + 1 }⟩

/-- Put an entry under its handle. A known handle gains a reference, and the entry is given up. -/
def insert (registry : Registry) (handle : UInt64) (pending : Pending) : Program Registry := do
  match registry.entries[handle]? with
  | some entry =>
    discard pending
    pure (registry.retain handle entry)
  | none => pure ⟨registry.entries.insert handle ⟨pending.allocator, 1, pending.address⟩⟩

/-- Record an allocator for a handle, or one more reference to a known handle. -/
def register (registry : Registry) (handle : UInt64) (allocator : Allocator) (scope : Scope) :
    Program (Except CallError Registry) := do
  match registry.entries[handle]? with
  | some entry => pure (.ok (registry.retain handle entry))
  | none =>
    match ← prepare allocator scope with
    | .ok pending => pure (.ok (← registry.insert handle pending))
    | .error error => pure (.error error)

/-- Give up one reference; with the last one the entry goes. -/
def release (registry : Registry) (handle : UInt64) : Program Registry := do
  match registry.entries[handle]? with
  | none =>
    .notice (.releaseUnregistered handle)
    pure registry
  | some entry =>
    let references := entry.references - 1
    if references = 0 then
      freeEntry entry.allocator entry.address
      pure ⟨registry.entries.erase handle⟩
    else pure ⟨registry.entries.insert handle { entry with references := references }⟩

/-- Give the memory of entries back, one after another. -/
def freeEntries : List (UInt64 × Entry) → Program Unit
  | [] => pure ()
  | (_, entry) :: rest => do
    freeEntry entry.allocator entry.address
    freeEntries rest

/-- The end of a registry: what is left of it is reported and given back in the order of handles. -/
def drop (registry : Registry) : Program Unit := do
  if registry.entries.isEmpty then pure ()
  else .notice (.entriesLeaked registry.size)
  freeEntries registry.entries.toList

end Registry

end VulkanBridge
