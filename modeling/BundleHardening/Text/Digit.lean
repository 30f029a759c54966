import BundleHardening.Text.Basic

/-!
# Digits

The numbers that decimal and hexadecimal digits write, and the characters that numbers stand for.
-/

set_option autoImplicit false

namespace BundleHardening.Text

/-- The value of a hexadecimal digit. -/
def hexDigit? (c : Char) : Option Nat :=
  if c.isDigit then some (c.toNat - '0'.toNat)
  else if 'a' ≤ c ∧ c ≤ 'f' then some (c.toNat - 'a'.toNat + 10)
  else if 'A' ≤ c ∧ c ≤ 'F' then some (c.toNat - 'A'.toNat + 10)
  else none

/-- The number that hexadecimal digits write. -/
def hexNumber? (ds : Text) : Option Nat :=
  ds.foldlM (fun n d => (hexDigit? d).map fun v => n * 16 + v) 0

/-- The number that decimal digits write. -/
def decimal (ds : Text) : Nat :=
  ds.foldl (fun n d => n * 10 + (d.toNat - '0'.toNat)) 0

/-- The character of the given code, when there is one. -/
def scalar? (n : Nat) : Option Char :=
  if n.isValidChar then some (Char.ofNat n) else none

/-- The least number that is rounded beyond the greatest number of double precision. -/
def doubleBound : Nat := Nat.pow 2 1024 - Nat.pow 2 970

/-- Whether a number, given by its digits and the power of ten that they are taken to, is beyond the
greatest number of double precision. -/
def isBeyondDouble (digits : Nat) (exponent : Int) : Bool :=
  digits != 0 && (308 < exponent || 0 ≤ exponent && doubleBound ≤ digits * Nat.pow 10 exponent.toNat)

end BundleHardening.Text
