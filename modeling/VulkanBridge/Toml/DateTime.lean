import VulkanBridge.Toml.Number
/-!
# TOML dates and times

A date, a time, or a date and a time joined by a `T` or a space, the last with an optional offset from
universal time. Days that the month does not have are refused; a minute may have a leap second.
-/

namespace VulkanBridge.Toml

/-- The number that two digits write, if it lies in a range. -/
def twoDigits? (low high : Nat) (a b : Char) : Option Nat := do
  let tens ← digit? 10 a
  let ones ← digit? 10 b
  let value := 10 * tens + ones
  if low ≤ value ∧ value ≤ high then some value else none

def isLeapYear (year : Nat) : Bool := (year % 4 == 0 && year % 100 != 0) || year % 400 == 0

def daysInMonth (year month : Nat) : Nat :=
  if month = 2 then (if isLeapYear year then 29 else 28)
  else if month = 4 ∨ month = 6 ∨ month = 9 ∨ month = 11 then 30
  else 31

/-- The text after a date. -/
def skipDate? : List Char → Option (List Char)
  | a :: b :: c :: d :: '-' :: m :: n :: '-' :: x :: y :: rest => do
    let year ← [a, b, c, d].foldlM (fun year digit => (digit? 10 digit).map (10 * year + ·)) 0
    let month ← twoDigits? 1 12 m n
    let day ← twoDigits? 1 31 x y
    if day ≤ daysInMonth year month then some rest else none
  | _ => none

/-- The text after a fraction of a second, if one follows. -/
def skipFraction? : List Char → Option (List Char)
  | '.' :: rest =>
    let after := rest.dropWhile Char.isDigit
    if after.length < rest.length then some after else none
  | text => some text

/-- The text after a time of day. -/
def skipTime? : List Char → Option (List Char)
  | a :: b :: ':' :: c :: d :: ':' :: e :: f :: rest => do
    let _ ← twoDigits? 0 23 a b
    let _ ← twoDigits? 0 59 c d
    let _ ← twoDigits? 0 60 e f
    skipFraction? rest
  | _ => none

/-- The text is an offset from universal time, or empty. -/
def isOffset : List Char → Bool
  | [] => true
  | [c] => c = 'Z' || c = 'z'
  | [sign, a, b, ':', c, d] =>
    (sign = '+' || sign = '-') && (twoDigits? 0 23 a b).isSome && (twoDigits? 0 59 c d).isSome
  | _ => false

/-- The text is a date, a time or both. -/
def isDateTime (text : List Char) : Bool :=
  match skipDate? text with
  | some [] => true
  | some (mark :: rest) => (mark = 'T' || mark = 't' || mark = ' ') && (skipTime? rest).any isOffset
  | none => skipTime? text = some []

end VulkanBridge.Toml
