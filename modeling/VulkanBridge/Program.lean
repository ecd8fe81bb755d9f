import VulkanBridge.Native.Call
import VulkanBridge.Notice
/-!
# Programs

A call of the application runs a `Program`: it asks its surroundings one `Request` after another, each with
an answer of its own type, and ends with a result. The surroundings are the application's callbacks, the
process's allocator, the native driver and its library, the configuration file and the log. Nothing is
assumed of them, so a fact about all answers is a fact about every driver and every allocator.
-/

namespace VulkanBridge

/-- A call of one of the application's callbacks. -/
inductive CallbackCall where
  | allocate (function : FunctionPointer) (userData : UserData) (size alignment : UInt64) (scope : Scope)
  | reallocate (function : FunctionPointer) (userData : UserData) (old : Option Address)
      (size alignment : UInt64) (scope : Scope)
  | free (function : FunctionPointer) (userData : UserData) (memory : Option Address)
  | internalAllocation (function : FunctionPointer) (userData : UserData) (size : UInt64) (kind : InternalKind)
      (scope : Scope)
  | internalFree (function : FunctionPointer) (userData : UserData) (size : UInt64) (kind : InternalKind)
      (scope : Scope)
  deriving DecidableEq

/-- Allocations answer memory or null, the other callbacks nothing. -/
def CallbackCall.Answer : CallbackCall → Type
  | allocate .. | reallocate .. => Option Address
  | _ => Unit

/-- What a program may ask for. -/
inductive Request where
  | callback (call : CallbackCall)
  | systemAllocate (layout : Layout)
  | systemFree (memory : Address) (layout : Layout)
  | native (call : NativeCall)
  /-- Does the native library have this entry point at an instance, or without one (null)? -/
  | instanceEntryPoint (inst : NativeHandle) (name : String)
  | deviceEntryPoint (device : NativeHandle) (name : String)
  | openLibrary (name : String)
  /-- The bootstrap entry point of an open library. -/
  | bootstrap (library : String)
  | readConfiguration
  | notice (notice : Notice)

/-- The type of a request's answer. -/
def Request.Answer : Request → Type
  | callback call => call.Answer
  | systemAllocate _ => Option Address
  | systemFree .. => Unit
  | native call => call.Answer
  | instanceEntryPoint .. | deviceEntryPoint .. => Bool
  | openLibrary _ | bootstrap _ => Except String Unit
  | readConfiguration => FileContent
  | notice _ => Unit

/-- Requests, each followed by what depends on its answer, and at last a result. -/
inductive Program (α : Type) where
  | done (result : α)
  | ask (request : Request) (next : request.Answer → Program α)

namespace Program

variable {α β : Type}

/-- One program after another. -/
def bind : Program α → (α → Program β) → Program β
  | done result, next => next result
  | ask request answered, next => ask request fun answer => (answered answer).bind next

instance : Monad Program where
  pure := done
  bind := bind

@[simp] theorem done_bind (result : α) (next : α → Program β) : (done result >>= next) = next result := rfl

@[simp] theorem ask_bind (request : Request) (answered : request.Answer → Program α) (next : α → Program β) :
    (ask request answered >>= next) = ask request fun answer => answered answer >>= next := rfl

@[simp] theorem pure_eq_done (result : α) : (pure result : Program α) = done result := rfl

theorem bind_done (program : Program α) : program >>= done = program := by
  induction program with
  | done _ => rfl
  | ask request answered ih => exact congrArg (ask request) (funext ih)

theorem bind_assoc {γ : Type} (program : Program α) (next : α → Program β) (last : β → Program γ) :
    program >>= next >>= last = program >>= fun result => next result >>= last := by
  induction program with
  | done _ => rfl
  | ask request answered ih => exact congrArg (ask request) (funext ih)

instance : LawfulMonad Program := LawfulMonad.mk' Program
  bind_done
  (fun _ _ => rfl)
  bind_assoc

/-- One request. -/
def request (request : Request) : Program request.Answer := ask request done

/-- One call of the native driver. -/
def native (call : NativeCall) : Program call.Answer := ask (.native call) done

/-- One line for the log. -/
def notice (notice : Notice) : Program Unit := ask (.notice notice) done

/-- Run a program in a monad that answers requests. -/
def run {m : Type → Type} [Monad m] (answer : (request : Request) → m request.Answer) : Program α → m α
  | done result => Pure.pure result
  | ask request next => answer request >>= fun reply => (next reply).run answer

end Program

end VulkanBridge
