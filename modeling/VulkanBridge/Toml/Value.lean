/-!
# TOML values

What a TOML document holds. A table knows how it came to be, since that decides who may still add to it:
a table with a header of its own, one that only headers below it imply, one that a dotted key opened, or
an inline table, which is complete as written.

`Entries.define`, `Entries.append` and `Entries.assign` are the three ways a line changes a document: a
`[header]`, a `[[header]]` and a `key = value`. Each is refused where it would define something twice.
-/

namespace VulkanBridge.Toml

/-- How a table that is written over several lines came to be. -/
inductive Origin where
  /-- By its own header. -/
  | header
  /-- By a header of a table below it. -/
  | implied
  /-- By a dotted key. -/
  | dotted
  deriving DecidableEq

inductive Value where
  | string (text : String)
  | integer (value : Int)
  /-- A floating-point number, as written. -/
  | float (literal : String)
  | boolean (value : Bool)
  /-- A date, a time or both, as written. -/
  | dateTime (literal : String)
  | array (items : List Value)
  | inlineTable (entries : List (String × Value))
  | table (origin : Origin) (entries : List (String × Value))
  /-- The tables of a repeated `[[header]]`. -/
  | tableArray (tables : List (List (String × Value)))

/-- Keys with their values, in the order written. -/
abbrev Entries := List (String × Value)

namespace Entries

/-- The value of a key. -/
def get? (entries : Entries) (key : String) : Option Value := entries.lookup key

/-- A new key; a known one is refused. -/
def add (entries : Entries) (key : String) (value : Value) : Option Entries :=
  if (entries.get? key).isSome then none else some (entries ++ [(key, value)])

/-- Another value for a known key. -/
def replace (entries : Entries) (key : String) (value : Value) : Entries :=
  entries.map fun entry => if entry.1 = key then (key, value) else entry

/-- Change the table that a header path leads to. Tables on the way are implied if missing; of a repeated
header the last table is meant; a value is no table. -/
def updateAt (change : Entries → Option Entries) : (path : List String) → Entries → Option Entries
  | [], entries => change entries
  | key :: path, entries =>
    match entries.get? key with
    | none => (updateAt change path []).bind fun inner => entries.add key (.table .implied inner)
    | some (.table origin inner) =>
      (updateAt change path inner).map fun inner => entries.replace key (.table origin inner)
    | some (.tableArray tables) =>
      (updateAt change path (tables.getLast?.getD [])).map fun inner =>
        entries.replace key (.tableArray (tables.dropLast ++ [inner]))
    | some _ => none

/-- A `[header]`: the table is new, or so far only implied. -/
def define (entries : Entries) (path : List String) (key : String) : Option Entries :=
  updateAt (fun parent =>
    match parent.get? key with
    | none => parent.add key (.table .header [])
    | some (.table .implied inner) => some (parent.replace key (.table .header inner))
    | some _ => none) path entries

/-- A `[[header]]`: the first or one more table of its array. -/
def append (entries : Entries) (path : List String) (key : String) : Option Entries :=
  updateAt (fun parent =>
    match parent.get? key with
    | none => parent.add key (.tableArray [[]])
    | some (.tableArray tables) => some (parent.replace key (.tableArray (tables ++ [[]])))
    | some _ => none) path entries

/-- A key with its value, under the rest of a dotted path. Tables on the way must not have a header of
their own, and the last one must have been opened by a dotted key (`open'`). -/
def assignUnder (key : String) (value : Value) : (path : List String) → (open' : Bool) → Entries → Option Entries
  | [], open', entries => if open' then entries.add key value else none
  | step :: path, _, entries =>
    match entries.get? step with
    | none => (assignUnder key value path true []).bind fun inner => entries.add step (.table .dotted inner)
    | some (.table .header _) => none
    | some (.table origin inner) =>
      (assignUnder key value path (origin = .dotted) inner).map fun inner =>
        entries.replace step (.table origin inner)
    | some (.tableArray tables) =>
      (assignUnder key value path false (tables.getLast?.getD [])).map fun inner =>
        entries.replace step (.tableArray (tables.dropLast ++ [inner]))
    | some _ => none

/-- A `key = value` in a table; the dotted path before the last key may be empty. -/
def assign (entries : Entries) (path : List String) (key : String) (value : Value) : Option Entries :=
  assignUnder key value path true entries

end Entries

end VulkanBridge.Toml
