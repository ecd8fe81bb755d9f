/-!
# Blanks, line ends and comments

The characters between the parts of a TOML document. A line ends with a line feed, with or without a
carriage return before it; a carriage return alone is nowhere allowed. Text is any character but the
controls, tabulators excepted.
-/

namespace VulkanBridge.Toml

/-- A reader takes a value from the front of a text and leaves the rest. -/
abbrev Reader (α : Type) := List Char → Option (α × List Char)

/-- A space or a tabulator. -/
def isBlank (c : Char) : Bool := c = ' ' || c = '\t'

/-- A character that comments and strings may hold. -/
def isText (c : Char) : Bool := c = '\t' || (0x20 ≤ c.toNat && c.toNat ≤ 0x7e) || 0x80 ≤ c.toNat

def skipBlanks (text : List Char) : List Char := text.dropWhile isBlank

/-- The text after a line end. -/
def newline? : List Char → Option (List Char)
  | '\n' :: rest => some rest
  | '\r' :: '\n' :: rest => some rest
  | _ => none

/-- The text after a comment, if one begins here. -/
def skipComment : List Char → List Char
  | '#' :: rest => rest.dropWhile isText
  | text => text

/-- What follows on the next line, if nothing but blanks and a comment is left on this one. -/
def endLine? (text : List Char) : Option (List Char) :=
  match skipComment (skipBlanks text) with
  | [] => some []
  | text => newline? text

/-- The text after blanks, line ends and comments, as between the items of an array. -/
def skipSpace : (inComment : Bool) → List Char → List Char
  | _, [] => []
  | _, '\n' :: rest => skipSpace false rest
  | _, '\r' :: '\n' :: rest => skipSpace false rest
  | false, '#' :: rest => skipSpace true rest
  | inComment, c :: rest => if isBlank c || (inComment && isText c) then skipSpace inComment rest else c :: rest

end VulkanBridge.Toml
