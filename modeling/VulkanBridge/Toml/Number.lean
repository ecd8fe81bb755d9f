import VulkanBridge.Toml.Text
/-!
# TOML numbers

Integers are decimal, or hexadecimal, octal or binary after their mark, and fit in 64 bits with a sign;
underscores may stand between digits. Floating-point numbers have a fraction, an exponent or both; one
that would round to positive infinity in double precision is refused.
-/

namespace VulkanBridge.Toml

/-- A digit in some base. -/
def digit? (base : Nat) (c : Char) : Option Nat := (hexDigit? c).filter (· < base)

/-- The value of digits with single underscores between them; `value` is what stands before. -/
def continueDigits (base : Nat) (value : Nat) : List Char → Option Nat
  | [] => some value
  | '_' :: c :: rest => (digit? base c).bind fun digit => continueDigits base (base * value + digit) rest
  | c :: rest => (digit? base c).bind fun digit => continueDigits base (base * value + digit) rest

/-- The value of one or more digits with single underscores between them. -/
def digits? (base : Nat) : List Char → Option Nat
  | [] => none
  | c :: rest => (digit? base c).bind fun digit => continueDigits base digit rest

/-- Whether a minus stands before a number, and the text after its sign. -/
def signed : List Char → Bool × List Char
  | '-' :: rest => (true, rest)
  | '+' :: rest => (false, rest)
  | text => (false, text)

/-- The value of a decimal number without superfluous zeros before it. -/
def decimal? : List Char → Option Nat
  | '0' :: _ :: _ => none
  | text => digits? 10 text

/-- The integer that a text writes. -/
def integer? (text : List Char) : Option Int := do
  let value ← match text with
    | '0' :: 'x' :: digits => (digits? 16 digits).map Int.ofNat
    | '0' :: 'o' :: digits => (digits? 8 digits).map Int.ofNat
    | '0' :: 'b' :: digits => (digits? 2 digits).map Int.ofNat
    | text =>
      let (negative, digits) := signed text
      (decimal? digits).map fun value => if negative then -Int.ofNat value else Int.ofNat value
  if -9223372036854775808 ≤ value ∧ value < 9223372036854775808 then some value else none

/-- The decimal number `digits * 10 ^ exponent` is so large that the nearest double is infinite: it reaches
the middle between the largest double and the next power of two. -/
def roundsToInfinity (digits : Nat) (exponent : Int) : Bool :=
  let magnitude := (Nat.toDigits 10 digits).length + exponent
  if digits = 0 ∨ magnitude < 300 then false
  else if 400 < magnitude then true
  else decide ((Nat.pow 2 1024 - Nat.pow 2 970) * Nat.pow 10 (-exponent).toNat ≤ digits * Nat.pow 10 exponent.toNat)

/-- The value of an exponent. -/
def exponent? (text : List Char) : Option Int :=
  let (negative, digits) := signed text
  (digits? 10 digits).map fun value => if negative then -Int.ofNat value else Int.ofNat value

/-- The text is a floating-point number with a fraction, an exponent or both. -/
def isDecimalFloat (text : List Char) : Bool :=
  let (negative, unsigned) := signed text
  let mantissa := unsigned.takeWhile fun c => c != 'e' && c != 'E'
  let scale := (unsigned.dropWhile fun c => c != 'e' && c != 'E').drop 1
  let whole := mantissa.takeWhile (· != '.')
  let fraction := (mantissa.dropWhile (· != '.')).drop 1
  let hasScale := mantissa.length < unsigned.length
  let hasFraction := whole.length < mantissa.length
  let fractionDigits := (fraction.filter (· != '_')).length
  match decimal? whole, (if hasFraction then digits? 10 fraction else some 0),
    (if hasScale then exponent? scale else some 0) with
  | some whole, some fraction, some scale =>
    (hasScale || hasFraction) &&
      (negative || !roundsToInfinity (whole * Nat.pow 10 fractionDigits + fraction) (scale - fractionDigits))
  | _, _, _ => false

/-- The text is a floating-point number: a decimal one, infinity or not a number. -/
def isFloat (text : List Char) : Bool :=
  let unsigned := (signed text).2
  unsigned = ['i', 'n', 'f'] || unsigned = ['n', 'a', 'n'] || isDecimalFloat text

end VulkanBridge.Toml
