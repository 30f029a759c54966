import BundleHardening.Text.Basic

/-!
# Names in generated code

The identifiers that a bundler writes into its runtime, and the names under which the hardened code
finds safe copies of the built-ins it calls.
-/

set_option autoImplicit false

namespace BundleHardening.Names

/-- The function that requires a module. -/
def require : Text := "__webpack_require__".toList

/-- The exports object of the entry module. -/
def exports : Text := "__webpack_exports__".toList

/-- The runtime's check for an own property. -/
def hasOwnShorthand : Text := "__webpack_require__.o".toList

/-- The runtime's helper that installs export getters. -/
def definePropertyGetters : Text := "__webpack_require__.d".toList

/-- The cache of modules. -/
def moduleCache : Text := "__webpack_module_cache__".toList

/-- The table of module factories. -/
def modules : Text := "__webpack_modules__".toList

/-- The safe copy of `Symbol.toStringTag`. -/
def toStringTag : Text := "toStringTagSym".toList

/-- The safe copy of `Object.defineProperty`. -/
def defineProperty : Text := "defineProperty".toList

/-- The safe copy of `Object.prototype.hasOwnProperty`. -/
def hasOwnProperty : Text := "hasOwnProperty".toList

/-- `Function.prototype.call`, bound to itself. -/
def safeCall : Text := "safeCall".toList

/-- The names of the safe copies, in the order of their declaration. -/
def safeBindings : List Text :=
  [toStringTag, defineProperty, hasOwnProperty, safeCall]

end BundleHardening.Names
