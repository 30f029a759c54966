import BundleHardening.Groups

/-!
# Replacement templates

A template is text in which `$$` stands for a dollar sign, `$&` for the whole match, and `$` with
one or two digits for a group that exists; two digits are preferred to one.  All else stands for
itself, and what is put in is not read again.
-/

set_option autoImplicit false

namespace BundleHardening.Template

/-- The value of a decimal digit. -/
def digit? (c : Char) : Option Nat :=
  if c.isDigit then some (c.toNat - '0'.toNat) else none

/-- Whether a group of the number, other than the whole match, exists. -/
def names (g : Groups) (n : Nat) : Bool :=
  0 < n && n < g.size

/-- What the characters behind a dollar sign stand for, and how many of them; `none` when the dollar
sign stands for itself. -/
def token (g : Groups) : Text → Option (Text × Nat)
  | '$' :: _ => some (['$'], 1)
  | '&' :: _ => some (g.whole, 1)
  | c :: t =>
    match digit? c with
    | none => none
    | some first =>
      let two := (t.head?.bind digit?).map fun second => first * 10 + second
      match two.filter (names g) with
      | some n => some (g.get n, 2)
      | none => if names g first then some (g.get first, 1) else none
  | [] => none

/-- Expands a template; `skip` characters belong to the token just expanded. -/
def expandFrom (g : Groups) : (skip : Nat) → Text → Text
  | _, [] => []
  | skip + 1, _ :: t => expandFrom g skip t
  | 0, c :: t =>
    if c = '$' then
      match token g t with
      | some (text, width) => text ++ expandFrom g width t
      | none => '$' :: expandFrom g 0 t
    else c :: expandFrom g 0 t

/-- Expands a template with the groups of a match. -/
def expand (g : Groups) (template : Text) : Text :=
  expandFrom g 0 template

end BundleHardening.Template
