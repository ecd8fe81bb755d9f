import VulkanBridge.Native.Driver
import VulkanBridge.Object.Record
/-!
# The state of the driver

`Bridge` is all that the driver keeps between calls: its blocks of records, the configuration once it has
been read, and whether the native driver is already part of the process. An entry point is an `Action`: a
program that works on this state.

`validate` is the check that every incoming handle passes: it is not null, and the tag in its record is
that of the wanted kind. `resolve` also reads the record. `Registry.enter` is how objects come about that have no
record, but an entry in a registry.
-/

namespace VulkanBridge

structure Bridge where
  blocks : Std.ExtTreeMap Address Block
  /-- Read on first use. -/
  config : Option Config
  /-- The native entry point is linked into the process, and no library is opened. -/
  staticEntry : Bool

/-- A program that works on the driver's state. -/
abbrev Action := StateT Bridge Program

namespace Bridge

/-- The state before the first call. -/
def initial : Bridge := ⟨∅, none, false⟩

def header? (bridge : Bridge) (handle : Handle) : Option Header :=
  bridge.blocks[handle.block]?.bind (·.header? handle.slot)

def record? (bridge : Bridge) (kind : ObjectKind) (handle : Handle) : Option kind.Record :=
  bridge.blocks[handle.block]?.bind (Block.record? kind · handle.slot)

/-- The state with a block of records. -/
def put (bridge : Bridge) (address : Address) (block : Block) : Bridge :=
  { bridge with blocks := bridge.blocks.insert address block }

/-- The state without a block. -/
def remove (bridge : Bridge) (address : Address) : Bridge :=
  { bridge with blocks := bridge.blocks.erase address }

/-- The state without a block, if one is named. -/
def remove? (bridge : Bridge) (address : Option Address) : Bridge :=
  match address with
  | none => bridge
  | some address => bridge.remove address

/-- The state with another header in a record. -/
def setHeader (bridge : Bridge) (handle : Handle) (header : Header) : Bridge :=
  match bridge.blocks[handle.block]? with
  | none => bridge
  | some block => bridge.put handle.block (block.setHeader header handle.slot)

end Bridge

/-- The handle of the only record in a block. -/
def Address.toHandle (address : Address) : Handle := ⟨address, 0⟩

/-- Accept a handle of a kind, or log why it is refused. -/
def validate (kind : ObjectKind) (handle : Option Handle) : Action (Except CallError Handle) := do
  match handle with
  | none =>
    Program.notice (.nullHandle kind)
    pure (.error (.invalidHandle kind.name))
  | some handle =>
    if ((← get).header? handle).map (·.tag) = some kind.tag then pure (.ok handle)
    else
      Program.notice (.wrongHandle handle kind)
      pure (.error (.invalidHandle kind.name))

/-- Accept a handle of a kind and read its record. -/
def resolve (kind : ObjectKind) (handle : Option Handle) : Action (Except CallError (Handle × kind.Record)) := do
  match ← validate kind handle with
  | .error error => pure (.error error)
  | .ok handle =>
    match (← get).record? kind handle with
    | some record => pure (.ok (handle, record))
    | none => pure (.error (.invalidHandle kind.name))

/-- Create a native object that is known by its native handle, and enter its allocator under the handle. The entry is
prepared first, since its copy of the allocator is what the native object calls back through. The second result is the
handle stored for the caller. -/
def Registry.enter (registry : Registry) (allocator : Allocator)
    (make : Option NativeCallbacks → Program (Except FailureCode NativeHandle)) (put : Registry → Bridge → Bridge) :
    Action (ResultCode × Option NativeHandle) := do
  match ← Registry.prepare allocator .object with
  | .error error => pure (error.deviceResult, none)
  | .ok pending =>
    match ← make pending.nativeCallbacks with
    | .error code =>
      Registry.discard pending
      pure (code.val, none)
    | .ok handle =>
      let registry ← registry.insert handle pending
      modify (put registry)
      pure (.success, some handle)

/-- Look at the configuration file. -/
def readConfiguration : Program FileContent := .request .readConfiguration

/-- The configuration, read when it is first needed. -/
def configuration : Action Config := do
  match (← get).config with
  | some config => pure config
  | none =>
    let config := Config.loadOrDefault (← readConfiguration)
    Program.notice (.initialized config)
    modify fun bridge => { bridge with config := some config }
    pure config

/-- Settle on a loader interface version: the requested one or, if that is higher, the highest spoken. The
second result is the version stored for the loader. -/
def negotiateVersion (requested : Option UInt32) : Action (ResultCode × Option UInt32) := do
  let _ ← configuration
  match requested with
  | none => pure (.initializationFailed, none)
  | some version =>
    pure (.success, some (if version < Platform.maxInterfaceVersion then version else Platform.maxInterfaceVersion))

end VulkanBridge
