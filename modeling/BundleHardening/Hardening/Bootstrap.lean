import BundleHardening.Hardening.ObjectLiteral

/-!
# Hardening the module runtime

The rules for the part of a chunk that holds the module cache, the require function and its helpers:
guard every object literal, take the feature test for `Symbol.toStringTag` as passed, and call the
safe copies of built-ins.
-/

set_option autoImplicit false

namespace BundleHardening.Bootstrap

/-- The feature test for `Symbol.toStringTag`. -/
def toStringTagTest : Text := "typeof Symbol !== 'undefined' && Symbol.toStringTag".toList

/-- The direct use of `Symbol.toStringTag`. -/
def toStringTag : Text := "Symbol.toStringTag".toList

/-- The direct call of `Object.defineProperty`. -/
def defineProperty : Text := "Object.defineProperty(".toList

/-- The direct call of `hasOwnProperty`. -/
def hasOwnProperty : Text := "Object.prototype.hasOwnProperty.call(".toList

/-- The check that a key is defined and not yet exported. -/
def ownershipCheck : Text :=
  Names.hasOwnShorthand ++ "(definition, key) && !".toList ++ Names.hasOwnShorthand ++
    "(exports, key)".toList

/-- The rules, in order.  The last one may rely on both objects being guarded by then, so that `in`
cannot be deceived. -/
def rules : RuleSet where
  name := "bootstrap"
  rules :=
    [ObjectLiteral.guardRule,
     .substitute (.literal "to-string-tag-feature-test" toStringTagTest "true".toList),
     .substitute (.literal "to-string-tag-alias" toStringTag Names.toStringTag),
     .substitute (.literal "define-property-alias" defineProperty (Names.defineProperty ++ ['('])),
     .substitute (.literal "has-own-property-safe-call" hasOwnProperty
       (Names.safeCall ++ ['('] ++ Names.hasOwnProperty ++ ", ".toList)),
     .substitute (.literal "redundant-ownership-check" ownershipCheck "!(key in exports)".toList)]

end BundleHardening.Bootstrap
