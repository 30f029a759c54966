import BundleHardening.CommandLine.Check

/-!
# Listing the rules

The rules of a rule set in the order in which they are applied, with their patterns if asked for.
-/

set_option autoImplicit false

namespace BundleHardening.CommandLine

/-- The rule sets of a choice. -/
def RuleChoice.sets : RuleChoice → List RuleSet
  | bootstrap => [Bootstrap.rules]
  | main => [MainChunk.rules]
  | all => [MainChunk.rules, Bootstrap.rules]

/-- What a rule does, in words. -/
def ruleText : Rule → Text
  | .transform _ => "whole-text transform".toList
  | .substitute s =>
    let replacement := match s.replacement with
      | .template t => Json.quote t
      | .computed _ => "<computed>".toList
    s.target.kind.toList ++ [' '] ++ Json.quote s.target.written ++ " -> ".toList ++ replacement

/-- A number in a column of two places. -/
def column (n : Nat) : Text :=
  let ds := Entry.digits n
  List.replicate (2 - ds.length) ' ' ++ ds

/-- The lines on one rule. -/
def ruleLines (colours verbose : Bool) (place : Nat) (r : Rule) : List Text :=
  let flag :=
    if r.isMandatory then Terminal.paint colours (.of .red) "mandatory".toList
    else Terminal.paint colours (.of .brightBlack) "optional ".toList
  ("  ".toList ++ column place ++ ". [".toList ++ flag ++ "] ".toList ++ r.name.toList) ::
    (if verbose then
      ["      ".toList ++ Terminal.paint colours (.of .brightBlack) (ruleText r)]
    else [])

/-- The lines on rules, counted from a number. -/
def rulesLines (colours verbose : Bool) : Nat → List Rule → List Text
  | _, [] => []
  | place, r :: rest =>
    ruleLines colours verbose place r ++ rulesLines colours verbose (place + 1) rest

/-- The lines on a rule set. -/
def setLines (colours verbose : Bool) (s : RuleSet) : List Text :=
  [Terminal.paint colours ({} : Terminal.Style).bold s.name.toList ++ " (".toList ++
    Entry.digits s.size ++ " rules):".toList] ++ rulesLines colours verbose 1 s.rules ++ [[]]

/-- The lines on a choice of rule sets. -/
def listing (colours verbose : Bool) (choice : RuleChoice) : List Text :=
  choice.sets.flatMap (setLines colours verbose) ++
    [("Rules apply top to bottom; a mandatory rule that matches nothing refuses the " ++
      "chunk.").toList]

end BundleHardening.CommandLine
