import BundleHardening.Hardening.Names
import BundleHardening.Rule

/-!
# Null-prototype object literals

An object literal that begins with `__proto__: null` inherits nothing.  The guard puts that entry
into every literal that stands where a value may stand, that is behind `[`, `(`, `,`, `=` or `:`.
Blank space between the brace and the first entry is dropped.
-/

set_option autoImplicit false

namespace BundleHardening.ObjectLiteral

/-- The entry that cuts a literal off from what it would inherit. -/
def nullProto : Text := "__proto__: null".toList

/-- The opening of an object literal as group one, and the first character inside it that is not blank
as group two. -/
def openingPattern : Text := "([\\[(,=:]\\s*\\\x7b)\\s*(.)".toList

/-- Whether the text, read behind an underscore, completes a `__proto__` key; blank space may stand
before the colon. -/
def continuesProtoKey (t : Text) : Bool :=
  match Text.after? "_proto__".toList t with
  | some rest => rest.trimStart.startsWith [':']
  | none => false

/-- The guarded form of a matched opening.  A literal whose first entry is a `__proto__` key stays as it
is, and an empty literal gets no comma. -/
def guarded (g : Groups) : Text :=
  let next := g.get 2
  if next = ['_'] ∧ continuesProtoKey g.after = true then g.whole
  else g.get 1 ++ nullProto ++ (if next = ['\x7d'] then [] else [',']) ++ next

/-- The guarded form as a computed replacement; it never fails. -/
def guardEntry (g : Groups) (_ : Context) : Run Text :=
  .done (guarded g)

/-- The rule that guards every literal. -/
def guardRule : Rule :=
  .substitute (.regex "object-literal-guard" openingPattern (.computed guardEntry))

/-- The guard alone. -/
def rules : RuleSet where
  name := "object-literal"
  rules := [guardRule]

end BundleHardening.ObjectLiteral
