import VulkanBridge.Toml.DateTime
import VulkanBridge.Toml.Value
/-!
# TOML documents

`Toml.parse` reads a whole document, version 1.0 of the format, and answers the entries of its root table.
Arrays and inline tables nest at most `depthLimit - 1` deep, and a dotted key has at most as many parts.
-/

namespace VulkanBridge.Toml

/-- A character that ends a value written without quotes. -/
def endsWord (c : Char) : Bool :=
  isBlank c || c = '\n' || c = '\r' || c = '#' || c = ',' || c = ']' || c = '\x7d'

/-- The value of a word. -/
def wordValue? (word : List Char) : Option Value :=
  if word = ['t', 'r', 'u', 'e'] then some (.boolean true)
  else if word = ['f', 'a', 'l', 's', 'e'] then some (.boolean false)
  else if isDateTime word then some (.dateTime (String.ofList word))
  else if isFloat word then some (.float (String.ofList word))
  else (integer? word).map .integer

/-- A word: the characters up to a blank, a line end, a comment or a mark of the structure around it. A
space between a date and a time belongs to the word. -/
def readWord : Reader (List Char) := fun text =>
  let word := text.takeWhile (!endsWord ·)
  match skipDate? word, text.dropWhile (!endsWord ·) with
  | some [], ' ' :: c :: rest =>
    if c.isDigit then
      some (word ++ ' ' :: (c :: rest).takeWhile (!endsWord ·), (c :: rest).dropWhile (!endsWord ·))
    else some (word, ' ' :: c :: rest)
  | _, rest => some (word, rest)

/-- A boolean, a date or time, or a number. -/
def readScalar : Reader Value := fun text => do
  let (word, rest) ← readWord text
  (wordValue? word).map (·, rest)

/-- The items of an array after its opening bracket, through the closing one; at most `fuel` items. -/
def readItems (readItem : Reader Value) : (fuel : Nat) → Reader (List Value)
  | 0, _ => none
  | fuel + 1, text =>
    match skipSpace false text with
    | ']' :: rest => some ([], rest)
    | text => do
      let (item, rest) ← readItem text
      match skipSpace false rest with
      | ',' :: rest => (readItems readItem fuel rest).map fun (items, rest) => (item :: items, rest)
      | ']' :: rest => some ([item], rest)
      | _ => none

/-- A `key = value`, blanks after it included. -/
def readAssignment (readItem : Reader Value) : Reader ((List String × String) × Value) := fun text => do
  let (path, rest) ← readPath text
  match rest with
  | '=' :: rest => (readItem (skipBlanks rest)).map fun (value, rest) => ((path, value), skipBlanks rest)
  | _ => none

/-- The entries of an inline table after the first, through the closing brace; at most `fuel` of them. -/
def readFields (readItem : Reader Value) : (fuel : Nat) → (entries : Entries) → Reader Entries
  | 0, _, _ => none
  | fuel + 1, entries, text => do
    let (((path, key), value), rest) ← readAssignment readItem text
    let entries ← entries.assign path key value
    match rest with
    | ',' :: rest => readFields readItem fuel entries rest
    | '\x7d' :: rest => some (entries, rest)
    | _ => none

/-- A value that holds at most `depth` levels of arrays and inline tables. -/
def readValue : (depth : Nat) → Reader Value
  | 0, text => match text with
    | '"' :: _ | '\'' :: _ => (readString text).map fun (text, rest) => (.string text, rest)
    | _ => readScalar text
  | depth + 1, text => match text with
    | '"' :: _ | '\'' :: _ => (readString text).map fun (text, rest) => (.string text, rest)
    | '[' :: rest =>
      (readItems (readValue depth) (rest.length + 1) rest).map fun (items, rest) => (.array items, rest)
    | '\x7b' :: rest => match skipBlanks rest with
      | '\x7d' :: rest => some (.inlineTable [], rest)
      | rest =>
        (readFields (readValue depth) (rest.length + 1) [] rest).map fun (entries, rest) => (.inlineTable entries, rest)
    | _ => readScalar text

/-- A line of a document. -/
inductive Line where
  | blank
  | header (path : List String) (key : String)
  | arrayHeader (path : List String) (key : String)
  | assignment (path : List String) (key : String) (value : Value)

/-- One line of a document, or several if a value spans them. -/
def readLine : Reader Line := fun text =>
  match skipBlanks text with
  | '[' :: '[' :: rest => do
    let ((path, key), rest) ← readPath rest
    match rest with
    | ']' :: ']' :: rest => (endLine? rest).map (.arrayHeader path key, ·)
    | _ => none
  | '[' :: rest => do
    let ((path, key), rest) ← readPath rest
    match rest with
    | ']' :: rest => (endLine? rest).map (.header path key, ·)
    | _ => none
  | text =>
    match endLine? text with
    | some rest => some (.blank, rest)
    | none => do
      let (((path, key), value), rest) ← readAssignment (readValue (depthLimit - 1)) text
      (endLine? rest).map (.assignment path key value, ·)

/-- A document as it grows: its root, and the path of the table that lines now belong to. -/
structure Document where
  root : Entries
  current : List String

/-- The document with one more line. -/
def Document.addLine (document : Document) : Line → Option Document
  | .blank => some document
  | .header path key => (document.root.define path key).map (⟨·, path ++ [key]⟩)
  | .arrayHeader path key => (document.root.append path key).map (⟨·, path ++ [key]⟩)
  | .assignment path key value =>
    (document.root.updateAt (·.assign path key value) document.current).map (⟨·, document.current⟩)

/-- The lines of a text, at most `fuel` of them, added to a document. -/
def Document.addLines : (fuel : Nat) → (document : Document) → List Char → Option Document
  | _, document, [] => some document
  | 0, _, _ => none
  | fuel + 1, document, text => do
    let (line, rest) ← readLine text
    (← document.addLine line).addLines fuel rest

/-- The root table of a document; a byte order mark before it is no part of it. -/
def parse (text : String) : Option Entries :=
  let chars := match text.toList with
    | '\ufeff' :: rest => rest
    | chars => chars
  (Document.addLines (chars.length + 1) ⟨[], []⟩ chars).map (·.root)

end VulkanBridge.Toml
