import BundleHardening.Hardening.Bootstrap
import BundleHardening.Proofs.Hardening.ObjectLiteral
import BundleHardening.Proofs.Pattern.Literal
import BundleHardening.Proofs.Text.Overlap

/-!
# The runtime rules as steps

Each rule for the module runtime is a step: the object literal guard, and the replacement of five exact
texts.  Together they guard the text and then replace one exact text after another (`all_steps`).
-/

set_option autoImplicit false

namespace BundleHardening

/-- Steps that replace exact texts. -/
theorem Step.all_eq_replaceEach {steps : List Step} {pairs : List (Text × Text)}
    (h : steps.map Step.act = pairs.map fun pair => Text.replaceAll pair.1 pair.2) (t : Text) :
    all steps t = Text.replaceEach pairs t := by
  induction steps generalizing pairs t with
  | nil =>
    cases pairs with
    | nil => rfl
    | cons pair pairs => cases h
  | cons s steps ih =>
    cases pairs with
    | nil => cases h
    | cons pair pairs =>
      obtain ⟨hact, hlater⟩ := List.cons_eq_cons.mp h
      rw [all, ih hlater, hact]
      rfl

namespace Bootstrap

/-- The steps behind the guard. -/
def literalSteps : List Step :=
  [.literal "to-string-tag-feature-test" toStringTagTest "true".toList
     (by decide) (by decide) (by decide),
   .literal "to-string-tag-alias" toStringTag Names.toStringTag
     (by decide) (by decide) (by decide),
   .literal "define-property-alias" defineProperty (Names.defineProperty ++ ['('])
     (by decide) (by decide) (by decide),
   .literal "has-own-property-safe-call" hasOwnProperty
     (Names.safeCall ++ ['('] ++ Names.hasOwnProperty ++ ", ".toList)
     (by decide) (by decide) (by decide),
   .literal "redundant-ownership-check" ownershipCheck "!(key in exports)".toList
     (by decide) (by decide) (by decide)]

/-- All steps, the guard first. -/
def steps : List Step :=
  ObjectLiteral.guardStep :: literalSteps

theorem rules_eq_steps : rules.rules = steps.map Step.rule :=
  rfl

/-- The exact texts that are replaced behind the guard, each with what replaces it. -/
def replacements : List (Text × Text) :=
  [(toStringTagTest, "true".toList), (toStringTag, Names.toStringTag),
   (defineProperty, Names.defineProperty ++ ['(']),
   (hasOwnProperty, Names.safeCall ++ ['('] ++ Names.hasOwnProperty ++ ", ".toList),
   (ownershipCheck, "!(key in exports)".toList)]

theorem map_act_literalSteps :
    literalSteps.map Step.act = replacements.map fun pair => Text.replaceAll pair.1 pair.2 :=
  rfl

/-- All steps together guard the text and replace the exact texts. -/
theorem all_steps (t : Text) :
    Step.all steps t = Text.replaceEach replacements (ObjectLiteral.guard t) :=
  Step.all_eq_replaceEach map_act_literalSteps (ObjectLiteral.guard t)

end Bootstrap

end BundleHardening
