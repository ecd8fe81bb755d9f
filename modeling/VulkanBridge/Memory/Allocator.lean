import VulkanBridge.Memory.Layout
/-!
# Allocators and their inheritance

An application may hand a `CallbackSet` to any call that creates an object. `Allocator.merge` resolves it
against the allocator of the parent object: the three primary callbacks come from the explicit set with
its user data, the pair that is told of internal allocations comes from the explicit set only if it has
one, else from the parent. A resolved `Allocator` is a plain copy and outlives the caller's record.

`Allocator.nativeCallbacks` is what the native driver is handed: functions of its own calling convention
that forward to a `Callbacks` record, which has to stay where it is while the driver may call them.
-/

namespace VulkanBridge

/-- The address of a block of memory. -/
structure Address where
  value : UInt64
  deriving DecidableEq

namespace Address

instance : Ord Address := ⟨compareOn value⟩

instance : Std.TransOrd Address := inferInstanceAs (Std.TransCmp (compareOn value))

instance : Std.LawfulEqOrd Address where
  eq_of_compare {a b} h := by
    have same : compare a.value b.value = .eq := h
    obtain ⟨a⟩ := a
    obtain ⟨b⟩ := b
    simp_all

/-- Below and above all addresses. -/
def lowest : Address := ⟨0⟩
def highest : Address := ⟨0xFFFFFFFFFFFFFFFF⟩

end Address

/-- How long an allocation is meant to live, as the raw code of a call. -/
structure Scope where
  raw : Int32
  deriving DecidableEq

namespace Scope

def command : Scope := ⟨0⟩
def object : Scope := ⟨1⟩
def cache : Scope := ⟨2⟩
def device : Scope := ⟨3⟩
def inst : Scope := ⟨4⟩

end Scope

/-- What an internal allocation is for, as the raw code of a notification. -/
structure InternalKind where
  raw : Int32
  deriving DecidableEq

/-- The word that a callback is given back with every call. -/
structure UserData where
  value : UInt64
  deriving DecidableEq

/-- The address of a function of the application. -/
structure FunctionPointer where
  value : UInt64
  deriving DecidableEq

/-- The callbacks an application passes to a call; each function may be missing. -/
structure CallbackSet where
  userData : UserData
  allocation : Option FunctionPointer
  reallocation : Option FunctionPointer
  free : Option FunctionPointer
  internalAllocation : Option FunctionPointer
  internalFree : Option FunctionPointer
  deriving DecidableEq

/-- The pair that is told of internal allocations, with its own user data. -/
structure InternalNotifications where
  userData : UserData
  allocation : Option FunctionPointer
  free : Option FunctionPointer
  deriving DecidableEq

/-- Callbacks resolved for an object. -/
structure Callbacks where
  userData : UserData
  allocation : Option FunctionPointer
  reallocation : Option FunctionPointer
  free : Option FunctionPointer
  internal : Option InternalNotifications
  deriving DecidableEq

/-- The allocator of an object: the application's callbacks, or the process's own allocator where
nobody passed any. -/
inductive Allocator where
  | system
  | custom (callbacks : Callbacks)
  deriving DecidableEq

/-- Where the record lies that callbacks forward to. -/
inductive CallbackContext where
  /-- In a record of the driver, for as long as that record lives. -/
  | record (address : Address)
  /-- On the stack of one call. -/
  | call
  deriving DecidableEq

/-- Callbacks in the native driver's convention. -/
structure NativeCallbacks where
  context : CallbackContext
  target : Callbacks
  deriving DecidableEq

/-- The functions a native driver may find in its callbacks. -/
inductive NativeFunction where
  | allocation
  | reallocation
  | free
  | internalAllocation
  | internalFree
  deriving DecidableEq

namespace NativeFunction

/-- In the order of the callback record. -/
def all : List NativeFunction := [allocation, reallocation, free, internalAllocation, internalFree]

end NativeFunction

namespace NativeCallbacks

/-- The three primary functions are always there, the two notifications only with a pair to tell. -/
def provides (callbacks : NativeCallbacks) : NativeFunction → Bool
  | .allocation | .reallocation | .free => true
  | .internalAllocation | .internalFree => callbacks.target.internal.isSome

end NativeCallbacks

namespace Allocator

/-- The callbacks of a custom allocator. -/
def callbacks? : Allocator → Option Callbacks
  | system => none
  | custom callbacks => some callbacks

/-- The pair that is told of internal allocations. -/
def internal? (allocator : Allocator) : Option InternalNotifications :=
  allocator.callbacks?.bind (·.internal)

/-- The allocator of an object created with these explicit callbacks under a parent. -/
def merge (explicit : Option CallbackSet) (parent : Allocator) : Allocator :=
  match explicit with
  | none => parent
  | some set => custom {
      userData := set.userData
      allocation := set.allocation
      reallocation := set.reallocation
      free := set.free
      internal :=
        if set.internalAllocation.isSome then some ⟨set.userData, set.internalAllocation, set.internalFree⟩
        else parent.internal? }

/-- What to hand to the native driver; it makes do with its own allocator where there are no callbacks. -/
def nativeCallbacks (allocator : Allocator) (context : CallbackContext) : Option NativeCallbacks :=
  allocator.callbacks?.map (⟨context, ·⟩)

end Allocator

end VulkanBridge
