import BundleHardening.Hardening.Names

/-!
# Declaring the safe copies

Hardened code calls safe copies of built-ins by name.  A build normally declares them around the
chunk; a prelude does the same for a build that does not.
-/

set_option autoImplicit false

namespace BundleHardening.SafeBindings

/-- The declarations, to be run before any other code. -/
def declarations : Text :=
  ("const toStringTagSym = Symbol.toStringTag;\n" ++
   "const defineProperty = Object.defineProperty;\n" ++
   "const hasOwnProperty = Object.prototype.hasOwnProperty;\n" ++
   "const safeCall = Function.prototype.call.bind(Function.prototype.call);\n").toList

/-- The text behind the declarations. -/
def withPrelude (t : Text) : Text :=
  declarations ++ t

/-- The names of the safe copies that the text never mentions. -/
def missing (t : Text) : List Text :=
  Names.safeBindings.filter fun name => !Text.holds name t

end BundleHardening.SafeBindings
