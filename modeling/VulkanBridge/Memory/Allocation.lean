import VulkanBridge.Program
/-!
# Allocating through an allocator

A custom allocator makes exactly one call of the application's callback per operation; a missing callback
allocates nothing and frees nothing. The process's allocator refuses empty and impossible layouts without
being asked. Storage comes for single objects (`allocateObject`) and arrays (`allocateArray`); an empty
array owns no memory, and an array too large for any layout is refused before anything is called.

`NativeCallbacks` forward what the native driver asks for to the record they stand for, unchanged.
-/

namespace VulkanBridge

namespace Callbacks

variable (callbacks : Callbacks)

def allocate (size alignment : UInt64) (scope : Scope) : Program (Option Address) :=
  match callbacks.allocation with
  | some function => .ask (.callback (.allocate function callbacks.userData size alignment scope)) .done
  | none => pure none

def reallocate (old : Option Address) (size alignment : UInt64) (scope : Scope) : Program (Option Address) :=
  match callbacks.reallocation with
  | some function => .ask (.callback (.reallocate function callbacks.userData old size alignment scope)) .done
  | none => pure none

def release (memory : Option Address) : Program Unit :=
  match callbacks.free with
  | some function => .ask (.callback (.free function callbacks.userData memory)) .done
  | none => pure ()

/-- Tell whoever is to be told, if they have a function for it. -/
def notify (function : InternalNotifications → Option FunctionPointer) (call : FunctionPointer → UserData → CallbackCall) :
    Program Unit :=
  match callbacks.internal.bind fun told => (function told).map (·, told.userData) with
  | some (function, userData) => .ask (.callback (call function userData)) fun _ => .done ()
  | none => pure ()

/-- Tell of an internal allocation. -/
def notifyAllocation (size : UInt64) (kind : InternalKind) (scope : Scope) : Program Unit :=
  callbacks.notify (·.allocation) (.internalAllocation · · size kind scope)

/-- Tell of the end of an internal allocation. -/
def notifyFree (size : UInt64) (kind : InternalKind) (scope : Scope) : Program Unit :=
  callbacks.notify (·.free) (.internalFree · · size kind scope)

end Callbacks

namespace NativeCallbacks

variable (callbacks : NativeCallbacks)

def allocate (size alignment : UInt64) (scope : Scope) : Program (Option Address) :=
  callbacks.target.allocate size alignment scope

def reallocate (old : Option Address) (size alignment : UInt64) (scope : Scope) : Program (Option Address) :=
  callbacks.target.reallocate old size alignment scope

def release (memory : Option Address) : Program Unit := callbacks.target.release memory

def notifyAllocation (size : UInt64) (kind : InternalKind) (scope : Scope) : Program Unit :=
  callbacks.target.notifyAllocation size kind scope

def notifyFree (size : UInt64) (kind : InternalKind) (scope : Scope) : Program Unit :=
  callbacks.target.notifyFree size kind scope

end NativeCallbacks

namespace Allocator

variable (allocator : Allocator)

/-- Memory of a size, or null. -/
def allocate (size alignment : UInt64) (scope : Scope) : Program (Option Address) :=
  match allocator with
  | custom callbacks => callbacks.allocate size alignment scope
  | system =>
    if size = 0 then pure none
    else match Layout.ofSize? size alignment with
      | some layout => .ask (.systemAllocate layout) .done
      | none => pure none

/-- Give memory back; null is ignored. The measures are those it was allocated with. -/
def free (memory : Option Address) (size alignment : UInt64) : Program Unit :=
  match memory with
  | none => pure ()
  | some address =>
    match allocator with
    | custom callbacks => callbacks.release (some address)
    | system =>
      match Layout.ofSize? size alignment with
      | some layout => .ask (.systemFree address layout) .done
      | none => pure ()

/-- Storage for one object. -/
def allocateObject (layout : Layout) (scope : Scope) : Program (Except CallError Address) := do
  match ← allocator.allocate layout.size layout.alignment scope with
  | some address => pure (.ok address)
  | none => pure (.error .outOfHostMemory)

/-- Give the storage of one object back. -/
def freeObject (layout : Layout) (address : Address) : Program Unit :=
  allocator.free (some address) layout.size layout.alignment

/-- Storage for `length` elements. -/
def allocateElements (element : Layout) (length : UInt64) (scope : Scope) : Program (Except CallError Address) := do
  match element.array? length with
  | none => pure (.error .outOfHostMemory)
  | some layout => allocator.allocateObject layout scope

/-- Storage for `length` elements; an empty array owns none. -/
def allocateArray (element : Layout) (length : UInt64) (scope : Scope) :
    Program (Except CallError (Option Address)) := do
  if length = 0 then pure (.ok none)
  else
    match ← allocator.allocateElements element length scope with
    | .ok address => pure (.ok (some address))
    | .error error => pure (.error error)

/-- Give the storage of `length` elements back. -/
def freeArray (element : Layout) (length : UInt64) (address : Option Address) : Program Unit :=
  if length = 0 then pure ()
  else match element.array? length with
    | none => pure ()
    | some layout => allocator.free address layout.size layout.alignment

end Allocator

end VulkanBridge
