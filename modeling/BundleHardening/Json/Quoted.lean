import BundleHardening.Text.Basic

/-!
# Writing JSON

In the written form of a string, quotes, backslashes and control characters stand behind a backslash,
and all else as it is.  Lists and objects are written without blanks.
-/

set_option autoImplicit false

namespace BundleHardening.Json

/-- The digit of a hexadecimal place, in lower case. -/
def hexDigit (n : Nat) : Char :=
  if n < 10 then Char.ofNat ('0'.toNat + n) else Char.ofNat ('a'.toNat + (n - 10))

/-- The written form of one character of a string. -/
def escapeChar (c : Char) : Text :=
  match c with
  | '"' => ['\\', '"']
  | '\\' => ['\\', '\\']
  | '\x08' => ['\\', 'b']
  | '\t' => ['\\', 't']
  | '\n' => ['\\', 'n']
  | '\x0c' => ['\\', 'f']
  | '\r' => ['\\', 'r']
  | c =>
    if c.toNat < 0x20 then
      ['\\', 'u', '0', '0', hexDigit (c.toNat / 16), hexDigit (c.toNat % 16)]
    else [c]

/-- The written form of a string. -/
def quote (t : Text) : Text :=
  '"' :: (t.flatMap escapeChar ++ ['"'])

/-- Texts joined by a separator. -/
def joined (separator : Text) : List Text → Text
  | [] => []
  | [t] => t
  | t :: rest => t ++ separator ++ joined separator rest

/-- The written form of a list of strings, without blanks. -/
def quoteAll (ts : List Text) : Text :=
  ['['] ++ joined [','] (ts.map quote) ++ [']']

/-- One member of an object, without blanks. -/
def member (key : String) (value : Text) : Text :=
  quote key.toList ++ [':'] ++ value

/-- An object, without blanks. -/
def object (members : List Text) : Text :=
  ['{'] ++ joined [','] members ++ ['}']

end BundleHardening.Json
