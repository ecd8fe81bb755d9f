import VulkanBridge.Program
/-!
# The native library

A native library is opened by the name in the configuration or by the platform's names, one after another,
and entered through its bootstrap entry point. All other entry points are resolved by name when an object is
created, in the order of their table; the first one missing fails the creation.

Whether a library opens decides what a call comes to, and this is all that is told of it: what an instance keeps of
an open library, and that the library is closed when the creation fails or the instance is destroyed, is left out.
-/

namespace VulkanBridge.NativeLibrary

/-- Open a library by its name; a failure comes with the reason in words. -/
def openNamed (name : String) : Program (Except String Unit) := .request (.openLibrary name)

/-- Find the bootstrap entry point of an open library. -/
def bootstrap (library : String) : Program (Except String Unit) := .request (.bootstrap library)

/-- Open the first library that loads; `reason` says why the one before did not. -/
def openFirst (reason : String) : List String → Program (Except CallError String)
  | [] => do
    .notice (.libraryNotFound reason)
    pure (.error (.libraryNotFound reason))
  | name :: names => do
    match ← openNamed name with
    | .ok () =>
      .notice (.libraryLoaded name)
      pure (.ok name)
    | .error text =>
      .notice (.libraryLoadFailed name text)
      openFirst (name ++ ": " ++ text) names

/-- Open the native library, unless its entry point is already part of the process. -/
def load (staticEntry : Bool) (library : Option String) : Program (Except CallError Unit) := do
  if staticEntry then
    .notice .staticEntryUsed
    pure (.ok ())
  else
    match ← openFirst "" (library.elim Platform.libraryNames fun name => [name]) with
    | .error error => pure (.error error)
    | .ok name =>
      match ← bootstrap name with
      | .ok () => pure (.ok ())
      | .error text =>
        .notice (.bootstrapUnresolved text)
        pure (.error (.missingEntryPoint bootstrapName))

/-- Is there an entry point of a native instance, or of none (null)? -/
def hasInstanceEntry (inst : NativeHandle) (name : String) : Program Bool := .request (.instanceEntryPoint inst name)

/-- Is there an entry point of a native device? -/
def hasDeviceEntry (device : NativeHandle) (name : String) : Program Bool := .request (.deviceEntryPoint device name)

/-- Undo the creation of a native object that lacks entry points. If there is not even the one to destroy it, it is
leaked. -/
def abandon (has : Program Bool) (destroy : Program Unit) (leaked : Notice) : Program Unit := do
  if ← has then destroy else .notice leaked

/-- Resolve every name of a table, up to the first that is missing. -/
def requireAll (has : String → Program Bool) : List String → Program (Except CallError Unit)
  | [] => pure (.ok ())
  | name :: names => do
    if ← has name then requireAll has names
    else
      .notice (.entryPointMissing name)
      pure (.error (.missingEntryPoint name))

end VulkanBridge.NativeLibrary
