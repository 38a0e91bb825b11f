import Quarantine.Text.Property

/-!
# Quoted text

Text between double quotes with the characters escaped that would not show: quotes and
backslashes, controls, characters without a shape of their own, and marks that would attach
to the quote.

    quote s = '"' · the escapes of the characters of s · '"'
-/

namespace Quarantine.Text

/-- Whether a character has a shape of its own. -/
def isPrintable (c : Char) : Bool :=
  c == ' ' || !(control.contains c || format.contains c || privateUse.contains c ||
    separator.contains c || unassigned.contains c)

/-- The digits of a number in base sixteen, lower case, without leading zeros. -/
def hex (n : Nat) : String := String.ofList (Nat.toDigits 16 n)

/-- The escape of a character of a quoted text. -/
def quoteChar (c : Char) : String :=
  match c with
  | '"' => "\\\""
  | '\\' => "\\\\"
  | '\n' => "\\n"
  | '\t' => "\\t"
  | '\r' => "\\r"
  | '\x00' => "\\0"
  | c =>
    if 0x20 ≤ c.toNat ∧ c.toNat < 0x7F then c.toString
    else if graphemeExtend.contains c || !isPrintable c then "\\u\x7b" ++ hex c.toNat ++ "\x7d"
    else c.toString

def quote (s : String) : String :=
  "\"" ++ String.join (s.toList.map quoteChar) ++ "\""

end Quarantine.Text
