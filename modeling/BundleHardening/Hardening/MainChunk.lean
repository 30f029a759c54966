import BundleHardening.Hardening.Registry

/-!
# Hardening the main chunk

The rules for the wrapper of a chunk: call modules through the safe alias, which many builds never
do directly; rewrite the module registry; and guard the getter table, the exports object and the
table of modules.
-/

set_option autoImplicit false

namespace BundleHardening.MainChunk

/-- The direct call of a module factory; group one is the factory. -/
def moduleCallPattern : Text :=
  ['('] ++ Names.modules.escape ++ "\\[moduleId\\])\\.call\\(".toList

/-- The three literals outside the registry: the opening as group one, and the first character inside
that is not blank as group two. -/
def literalSitesPattern : Text :=
  ['('] ++ Names.definePropertyGetters.escape ++ "\\(".toList ++ Names.exports.escape ++
    ", \\\x7b|var ".toList ++ Names.exports.escape ++ " = \\\x7b|var ".toList ++
    Names.modules.escape ++ " = \\(\\\x7b)\\s*(.)".toList

/-- The rules, in order. -/
def rules : RuleSet where
  name := "main"
  rules :=
    [.substitute
       (Substitution.regex "safe-module-call" moduleCallPattern
         (.template (Names.safeCall ++ "($1, ".toList))).optional,
     .substitute
       (Substitution.regex Registry.ruleName Registry.spanPattern
         (.computed Registry.harden)).firstOnly,
     .substitute
       (.regex "exports-literal-guard" literalSitesPattern (.computed ObjectLiteral.guardEntry))]

end BundleHardening.MainChunk
