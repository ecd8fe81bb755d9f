import VulkanBridge.Text.Unprintable
/-!
# Quoted text

A text between quotation marks, on one line and without invisible characters: quotation marks and
backslashes get a backslash, the usual controls their letter, and other characters that cannot be shown
their code point in lower-case hexadecimal digits between braces.
-/

namespace VulkanBridge.Text

/-- The lower-case hexadecimal digits of a number. -/
def hexDigits (n : Nat) : String := String.ofList (Nat.toDigits 16 n)

/-- One character inside a quoted text. -/
def escape (c : Char) : String :=
  if c = '"' then "\\\""
  else if c = '\\' then "\\\\"
  else if c = '\x00' then "\\0"
  else if c = '\t' then "\\t"
  else if c = '\r' then "\\r"
  else if c = '\n' then "\\n"
  else if isPrintable c then c.toString
  else "\\u\x7b" ++ hexDigits c.toNat ++ "\x7d"

/-- A text in quotation marks. -/
def quote (text : String) : String := "\"" ++ String.join (text.toList.map escape) ++ "\""

end VulkanBridge.Text
