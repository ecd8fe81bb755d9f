import VulkanBridge.Platform
import VulkanBridge.Text.Quoted
import VulkanBridge.Toml.Document
/-!
# Configuration

Two settings, in a TOML document: `native.library`, the native library to open, and `logging.filter`,
what to log. `Config.parse?` reads a document and refuses settings of a wrong type; keys it does not know
are ignored. `Config.load` reads a file, and `Config.loadOrDefault` falls back to the defaults for
whatever reason the file is of no use.
-/

namespace VulkanBridge

/-- The settings. -/
structure Config where
  /-- The path or file name of the native library; without one the platform's names are tried. -/
  library : Option String
  filter : String
  deriving DecidableEq

/-- Why a configuration file is of no use. -/
inductive ConfigError where
  | missingFile
  | notUtf8
  | malformed
  deriving DecidableEq

/-- What a look at a file finds: its bytes, if it exists. -/
abbrev FileContent := Option (List UInt8)

namespace ConfigError

/-- The reason in words; what is wrong with a malformed document is left open. -/
def message : ConfigError → String
  | missingFile => "IO error: No such file or directory (os error 2)"
  | notUtf8 => "IO error: stream did not contain valid UTF-8"
  | malformed => "invalid configuration"

end ConfigError

namespace Config

open Toml

/-- The settings where none are given. -/
def standard : Config := ⟨none, "warn"⟩

/-- A setting that has to be a string. -/
def text? : Value → Option String
  | .string text => some text
  | _ => none

/-- The section `native`. Written as a list, its first item is the library. A date and time counts as a
section without settings. -/
def library? : Option Value → Option (Option String)
  | none | some (.dateTime _) => some none
  | some (.table _ entries) | some (.inlineTable entries) =>
    match Entries.get? entries "library" with
    | none => some none
    | some value => (text? value).map some
  | some (.array (value :: _)) => (text? value).map some
  | some _ => none

/-- The section `logging`. Written as a list, its first item is the filter, which may be missing. -/
def filter? : Option Value → Option String
  | none | some (.dateTime _) | some (.array []) => some standard.filter
  | some (.table _ entries) | some (.inlineTable entries) =>
    match Entries.get? entries "filter" with
    | none => some standard.filter
    | some value => text? value
  | some (.array (value :: _)) => text? value
  | some _ => none

/-- The settings that a document holds. -/
def parse? (document : String) : Option Config := do
  let root ← Toml.parse document
  let library ← library? (root.get? "native")
  let filter ← filter? (root.get? "logging")
  some ⟨library, filter⟩

/-- The settings in a file. -/
def load : FileContent → Except ConfigError Config
  | none => .error .missingFile
  | some bytes =>
    match String.fromUTF8? ⟨bytes.toArray⟩ with
    | none => .error .notUtf8
    | some document =>
      match parse? document with
      | none => .error .malformed
      | some config => .ok config

/-- The settings in a file, or the defaults. -/
def loadOrDefault (content : FileContent) : Config :=
  match load content with
  | .ok config => config
  | .error _ => standard

/-- The configuration file to read when none is named: the system's if there is one. -/
def defaultPath (systemFileExists : Bool) : String :=
  if systemFileExists then Platform.systemConfigPath else Platform.localConfigPath

/-- The settings as the log shows them. -/
def describe (config : Config) : String :=
  let library := match config.library with
    | none => "None"
    | some name => "Some(" ++ Text.quote name ++ ")"
  "ShimConfig \x7b native: NativeConfig \x7b library: " ++ library ++
    " \x7d, logging: LoggingConfig \x7b filter: " ++ Text.quote config.filter ++ " \x7d \x7d"

end Config

end VulkanBridge
