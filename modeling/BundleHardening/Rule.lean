import BundleHardening.Pattern.Scan
import BundleHardening.Rewrite.Run
import BundleHardening.Template

/-!
# Rules

A rule is one step of a rewrite: a substitution, which replaces what a pattern matches, or a
transform, which rewrites the whole text.  A mandatory substitution that leaves the text as it is
fails: the text has not the shape that the rule was written for.
-/

set_option autoImplicit false

namespace BundleHardening

/-- What a substitution looks for: exactly its text, or what its text says as a pattern. -/
inductive Target where
  | exact (text : Text)
  | pattern (written : Text)
  deriving DecidableEq, Repr

namespace Target

/-- The text of the target as written. -/
def written : Target → Text
  | exact text => text
  | pattern written => written

/-- The target as a pattern ready to match. -/
def compiled : Target → Except PatternError Pattern
  | exact text => Pattern.literal text
  | pattern written => Pattern.ofText written

/-- Whether the target may occur in the text; only exact text is looked up. -/
def mayOccurIn (t : Text) : Target → Bool
  | exact text => Text.holds text t
  | pattern _ => true

/-- The name of the kind of target. -/
def kind : Target → String
  | exact _ => "literal"
  | pattern _ => "regex"

end Target

/-- What a match is replaced with: an expanded template, or a text computed from the match, which is put
in as it is. -/
inductive Replacement where
  | template (text : Text)
  | computed (compute : Groups → Context → Run Text)

/-- Which matches are replaced. -/
inductive Scope where
  | all
  | first
  deriving DecidableEq, Repr

/-- The number of matches that are replaced, when it is limited. -/
def Scope.limit : Scope → Option Nat
  | all => none
  | first => some 1

/-- A step that replaces what its target matches. -/
structure Substitution where
  name : String
  target : Target
  replacement : Replacement
  mandatory : Bool := true
  scope : Scope := .all

namespace Substitution

/-- A mandatory substitution of exact text by a template. -/
def literal (name : String) (text template : Text) : Substitution where
  name := name
  target := .exact text
  replacement := .template template

/-- A mandatory substitution of what a pattern matches. -/
def regex (name : String) (written : Text) (replacement : Replacement) : Substitution where
  name := name
  target := .pattern written
  replacement := replacement

/-- The substitution as an optional step. -/
def optional (s : Substitution) : Substitution :=
  { s with mandatory := false }

/-- The substitution of the leftmost match alone. -/
def firstOnly (s : Substitution) : Substitution :=
  { s with scope := .first }

/-- The text for each match of a scan, in order, up to the first failure. -/
def replacements (s : Substitution) (ctx : Context) (hits : List Hit) : Run (List Text) :=
  match s.replacement with
  | .template template => .done (hits.map fun hit => Template.expand hit.groups template)
  | .computed compute => Run.each (fun hit => compute hit.groups ctx) hits

/-- The error of the substitution where its pattern gives no answer. -/
def execution (s : Substitution) (e : PatternError) : RewriteError :=
  .execution s.name s.target.written e.message

/-- Replaces the matches of a pattern; `none` when the text comes out as it was.  A match that overlaps the
one in front of it makes the replacement panic, and an aborted scan fails, whatever the texts for the
matches in front came to. -/
def replaceIn (s : Substitution) (p : Pattern) (t : Text) (ctx : Context) : Run (Option Text) :=
  let scan := Scan.of p s.scope.limit t
  let texts := s.replacements ctx scan.reached
  if scan.overlaps then texts.panicking (s.execution .overlapping)
  else if scan.aborted then texts.failingWith (s.execution .aborted)
  else do
    let texts ← texts
    let out := scan.fill texts
    pure (if out = t then none else some out)

/-- Carries out the substitution; `none` when the text comes out as it was. -/
def substitute (s : Substitution) (t : Text) (ctx : Context) : Run (Option Text) :=
  if s.target.mayOccurIn t then
    match s.target.compiled with
    | .ok p => s.replaceIn p t ctx
    | .error e => .fail (.invalidPattern s.name s.target.written e.message)
  else .done none

/-- The error of a substitution that found nothing to change. -/
def mismatch (s : Substitution) (ctx : Context) (t : Text) : RewriteError :=
  .mismatch none s.name s.target.written ctx.displayName t

/-- Carries out the substitution, which must change the text. -/
def assertMatched (s : Substitution) (t : Text) (ctx : Context) : Run Text := do
  match ← s.substitute t ctx with
  | some out => pure out
  | none => .fail (s.mismatch ctx t)

end Substitution

/-- A step that rewrites the whole text. -/
structure Transform where
  name : String
  apply : Text → Context → Run Text

/-- One step of a rewrite. -/
inductive Rule where
  | substitute (s : Substitution)
  | transform (t : Transform)

namespace Rule

/-- The name of the rule. -/
def name : Rule → String
  | substitute s => s.name
  | transform t => t.name

/-- Whether the rule fails when it changes nothing. -/
def isMandatory : Rule → Bool
  | substitute s => s.mandatory
  | transform _ => false

/-- Carries out the rule at the given position of a rule set that was given `source`. -/
def run (rule : Rule) (index : Nat) (source t : Text) (ctx : Context) : Run Text :=
  match rule with
  | transform f => do
    let out ← f.apply t ctx
    Run.note (.transformApplied f.name)
    pure out
  | substitute s =>
    if s.mandatory then do
      let out ← (s.assertMatched t ctx).placed s.name index source
      Run.note (.mandatoryApplied s.name)
      pure out
    else do
      match ← s.substitute t ctx with
      | some out =>
        Run.note (.optionalApplied s.name)
        pure out
      | none =>
        Run.note (.optionalMissed s.name)
        pure t

end Rule

/-- Rules under a name, in the order in which they run. -/
structure RuleSet where
  name : String
  rules : List Rule

namespace RuleSet

/-- The number of rules. -/
def size (s : RuleSet) : Nat :=
  s.rules.length

/-- The first rule of the given name. -/
def get? (s : RuleSet) (name : String) : Option Rule :=
  s.rules.find? fun rule => rule.name == name

/-- Carries out rules in order; the first stands at the given position of a rule set that was given
`source`. -/
def runFrom (ctx : Context) (source : Text) : (index : Nat) → List Rule → Text → Run Text
  | _, [], t => .done t
  | index, rule :: rules, t => do
    let t ← rule.run index source t ctx
    runFrom ctx source (index + 1) rules t

/-- Carries out every rule on a text, each on what the one before left. -/
def apply (s : RuleSet) (t : Text) (ctx : Context) : Run Text :=
  runFrom ctx t 0 s.rules t

end RuleSet

end BundleHardening
