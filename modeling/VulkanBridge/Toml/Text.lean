import VulkanBridge.Toml.Blank
/-!
# TOML strings and keys

The four kinds of string: basic (with escapes) and literal (without), each on one line or between tripled
quotes over several. Every function here reads what follows an opening quote. A key is a bare word or a
one-line string.
-/

namespace VulkanBridge.Toml

/-- The character a letter stands for after a backslash. -/
def escapedLetter? : Char → Option Char
  | 'b' => some '\x08'
  | 't' => some '\t'
  | 'n' => some '\n'
  | 'f' => some '\x0c'
  | 'r' => some '\r'
  | '"' => some '"'
  | '\\' => some '\\'
  | _ => none

/-- The value of a hexadecimal digit. -/
def hexDigit? (c : Char) : Option Nat :=
  if '0' ≤ c ∧ c ≤ '9' then some (c.toNat - '0'.toNat)
  else if 'a' ≤ c ∧ c ≤ 'f' then some (c.toNat - 'a'.toNat + 10)
  else if 'A' ≤ c ∧ c ≤ 'F' then some (c.toNat - 'A'.toNat + 10)
  else none

/-- The character with a code point, given by its hexadecimal digits. -/
def codePoint? (digits : List Char) : Option Char := do
  let value ← digits.foldlM (fun value c => (hexDigit? c).map (16 * value + ·)) 0
  if value.isValidChar then some (Char.ofNat value) else none

/-- The rest of a basic string. -/
def basicString : Reader (List Char)
  | [] => none
  | '"' :: rest => some ([], rest)
  | '\\' :: 'u' :: a :: b :: c :: d :: rest => do
    let char ← codePoint? [a, b, c, d]
    (basicString rest).map fun (text, rest) => (char :: text, rest)
  | '\\' :: 'U' :: a :: b :: c :: d :: e :: f :: g :: h :: rest => do
    let char ← codePoint? [a, b, c, d, e, f, g, h]
    (basicString rest).map fun (text, rest) => (char :: text, rest)
  | '\\' :: letter :: rest => do
    let char ← escapedLetter? letter
    (basicString rest).map fun (text, rest) => (char :: text, rest)
  | c :: rest =>
    if isText c && c != '\\' then (basicString rest).map fun (text, rest) => (c :: text, rest) else none

/-- The rest of a literal string. -/
def literalString : Reader (List Char)
  | [] => none
  | '\'' :: rest => some ([], rest)
  | c :: rest => if isText c then (literalString rest).map fun (text, rest) => (c :: text, rest) else none

/-- A backslash before this text joins lines. -/
def continuesLine (text : List Char) : Bool := (newline? (skipBlanks text)).isSome

/-- The rest of a basic string between tripled quotes. Up to two quotes before the closing three belong
to the string. A backslash at the end of a line takes all blanks and line ends after it away
(`joining`). -/
def basicLines : (joining : Bool) → Reader (List Char)
  | _, [] => none
  | true, '\n' :: rest => basicLines true rest
  | true, '\r' :: '\n' :: rest => basicLines true rest
  | true, ' ' :: rest => basicLines true rest
  | true, '\t' :: rest => basicLines true rest
  | _, '"' :: '"' :: '"' :: '"' :: '"' :: rest => some (['"', '"'], rest)
  | _, '"' :: '"' :: '"' :: '"' :: rest => some (['"'], rest)
  | _, '"' :: '"' :: '"' :: rest => some ([], rest)
  | _, '\n' :: rest => (basicLines false rest).map fun (text, rest) => ('\n' :: text, rest)
  | _, '\r' :: '\n' :: rest => (basicLines false rest).map fun (text, rest) => ('\n' :: text, rest)
  | _, '\\' :: 'u' :: a :: b :: c :: d :: rest => do
    let char ← codePoint? [a, b, c, d]
    (basicLines false rest).map fun (text, rest) => (char :: text, rest)
  | _, '\\' :: 'U' :: a :: b :: c :: d :: e :: f :: g :: h :: rest => do
    let char ← codePoint? [a, b, c, d, e, f, g, h]
    (basicLines false rest).map fun (text, rest) => (char :: text, rest)
  | _, '\\' :: letter :: rest =>
    if continuesLine (letter :: rest) then basicLines true (letter :: rest)
    else do
      let char ← escapedLetter? letter
      (basicLines false rest).map fun (text, rest) => (char :: text, rest)
  | _, c :: rest =>
    if isText c && c != '\\' then (basicLines false rest).map fun (text, rest) => (c :: text, rest) else none

/-- The rest of a literal string between tripled quotes. -/
def literalLines : Reader (List Char)
  | [] => none
  | '\'' :: '\'' :: '\'' :: '\'' :: '\'' :: rest => some (['\'', '\''], rest)
  | '\'' :: '\'' :: '\'' :: '\'' :: rest => some (['\''], rest)
  | '\'' :: '\'' :: '\'' :: rest => some ([], rest)
  | '\n' :: rest => (literalLines rest).map fun (text, rest) => ('\n' :: text, rest)
  | '\r' :: '\n' :: rest => (literalLines rest).map fun (text, rest) => ('\n' :: text, rest)
  | c :: rest => if isText c then (literalLines rest).map fun (text, rest) => (c :: text, rest) else none

/-- The text without a line end right at its start. -/
def dropNewline (text : List Char) : List Char := (newline? text).getD text

/-- What a reader of characters reads, as a string. -/
def readText (reader : Reader (List Char)) : Reader String := fun text =>
  (reader text).map fun (text, rest) => (String.ofList text, rest)

/-- A string of any kind. -/
def readString : Reader String
  | '"' :: '"' :: '"' :: rest => readText (basicLines false) (dropNewline rest)
  | '"' :: rest => readText basicString rest
  | '\'' :: '\'' :: '\'' :: rest => readText literalLines (dropNewline rest)
  | '\'' :: rest => readText literalString rest
  | _ => none

/-- A character of a bare key. -/
def isBareKey (c : Char) : Bool := c.isAlphanum || c = '_' || c = '-'

/-- One key: a bare word or a one-line string. -/
def readKey : Reader String
  | '"' :: rest => readText basicString rest
  | '\'' :: rest => readText literalString rest
  | text =>
    let word := text.takeWhile isBareKey
    if word = [] then none else some (String.ofList word, text.dropWhile isBareKey)

/-- How deep values and keys may nest. -/
def depthLimit : Nat := 80

/-- A dotted key of at most `limit` parts, blanks around each part. -/
def readParts : (limit : Nat) → Reader (List String)
  | 0, _ => none
  | limit + 1, text => do
    let (key, rest) ← readKey (skipBlanks text)
    match skipBlanks rest with
    | '.' :: rest => (readParts limit rest).map fun (keys, rest) => (key :: keys, rest)
    | rest => some ([key], rest)

/-- A dotted key, as the path before its last part and that part. -/
def readPath : Reader (List String × String) := fun text => do
  let (keys, rest) ← readParts (depthLimit - 1) text
  let last ← keys.getLast?
  some ((keys.dropLast, last), rest)

end VulkanBridge.Toml
