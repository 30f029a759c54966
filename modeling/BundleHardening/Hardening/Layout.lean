import BundleHardening.Hardening.Names

/-!
# How the modules of a chunk are laid out

A bundler either joins all modules into one scope, where the registry is the require function's own
property bag, or keeps them as factories that are resolved through a cache of modules.
-/

set_option autoImplicit false

namespace BundleHardening

/-- The layout of the modules of a chunk. -/
inductive Layout where
  | concatenated
  | modular
  deriving DecidableEq, Repr

namespace Layout

/-- The layout of a chunk whose registry is declared under the given identifier. -/
def ofHolder (holder : Text) : Layout :=
  if holder = Names.require then concatenated else modular

/-- The name of the layout. -/
def label : Layout → String
  | concatenated => "concatenated"
  | modular => "modular"

end Layout

end BundleHardening
