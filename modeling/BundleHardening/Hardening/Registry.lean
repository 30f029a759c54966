import BundleHardening.Hardening.Bootstrap
import BundleHardening.Json.Quoted

/-!
# The module registry

The span from the declaration of the registry to the declaration of the entry's exports.  When the
bundler kept separate modules, every property read off the require function is pinned by a loop in
front of the span, and the span gets the whole set of runtime rules; otherwise it gets the object
literal guard alone.
-/

set_option autoImplicit false

namespace BundleHardening.Registry

/-- The name of the rule for the registry. -/
def ruleName : String := "module-registry"

/-- The span of the registry; group one is the identifier it is declared under. -/
def spanPattern : Text :=
  "(?s)var (".toList ++ Names.moduleCache.escape ++ ['|'] ++ Names.require.escape ++
    ") = \\\x7b\\\x7d;.*?var ".toList ++ Names.exports.escape ++ " =".toList

/-- A property read off the require function; group one is its name. -/
def propertyPattern : Text :=
  "\\b".toList ++ Names.require.escape ++ "\\.(\\w+)".toList

/-- The layout of a whole chunk, when the pattern for a span finds one.  The identifier is what stands
between the keyword and the next space. -/
def layoutBy (pattern : Except PatternError Pattern) (chunk : Text) : Option Layout :=
  match pattern with
  | .error _ => none
  | .ok p =>
    match p.find (Cursor.start chunk) with
    | .found f =>
      (Text.after? "var ".toList (f.first.upTo f.last)).map fun rest =>
        Layout.ofHolder (rest.takeWhile (· != ' '))
    | _ => none

/-- The layout of a whole chunk, when it holds a registry. -/
def detectLayout (chunk : Text) : Option Layout :=
  layoutBy (Pattern.ofText spanPattern) chunk

/-- The members of a list in order of first appearance, each once. -/
def distinct (seen : List Text) : List Text → List Text
  | [] => []
  | t :: rest => if seen.contains t then distinct seen rest else t :: distinct (t :: seen) rest

/-- The names that a pattern for properties finds in a span, in order of first appearance. -/
def propertiesBy (pattern : Except PatternError Pattern) (span : Text) : Run (List Text) :=
  match pattern >>= fun p => p.groupValues span 1 with
  | .ok found => .done (distinct [] found)
  | .error e => .fail (.execution ruleName propertyPattern e.message)

/-- The properties read off the require function in a span, in order of first appearance. -/
def requireProperties (span : Text) : Run (List Text) :=
  propertiesBy (Pattern.ofText propertyPattern) span

/-- The loop that pins the given properties on the require function: fixed, not enumerable, and
described by a literal that inherits nothing. -/
def guardLoop (names : List Text) : Text :=
  "for (let i = 0, props=".toList ++ Json.quoteAll names ++ "; i < props.length; i++)\n  ".toList ++
    Names.defineProperty ++ ['('] ++ Names.require ++
    ", props[i], \x7b__proto__: null, value: 0, writable: 1\x7d);\n".toList

/-- The guard loop that goes in front of a span, if one is called for. -/
def guardFor (layout : Layout) (span : Text) : Run (Option Text) :=
  match layout with
  | .concatenated => .done none
  | .modular => do
    let names ← requireProperties span
    pure (if names.isEmpty then none else some (guardLoop names))

/-- The hardened form of the registry's span. -/
def harden (g : Groups) (ctx : Context) : Run Text := do
  let layout := Layout.ofHolder (g.get 1)
  let guard ← guardFor layout g.whole
  Run.note (.registryLocated layout guard.isSome)
  let rules := if guard.isSome then Bootstrap.rules else ObjectLiteral.rules
  let span ← rules.apply g.whole ctx
  pure (guard.getD [] ++ span)

end BundleHardening.Registry
