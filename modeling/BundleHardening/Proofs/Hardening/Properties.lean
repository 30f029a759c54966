import BundleHardening.Hardening.Registry
import BundleHardening.Proofs.Pattern.Abort
import BundleHardening.Proofs.Pattern.Literal
import BundleHardening.Proofs.Text.Ranges

/-!
# Reading the require function's properties

A pattern of the linear dialect is never aborted, and the pattern for the properties of the require
function is one, so reading them always gives an answer.  Whether the pattern keeps to the room it may
take depends on the size of the table of word characters.
-/

set_option autoImplicit false

namespace BundleHardening

/-- The groups of a regular pattern's matches can always be read. -/
theorem Pattern.groupValues_ofRegular (written : Text) (engine : Engine) (r : Regular) (t : Text)
    (index : Nat) : ∃ found, (ofRegular written engine r).groupValues t index = .ok found := by
  have haborted : (Scan.of (ofRegular written engine r) none t).aborted = false :=
    Scan.aborted_collect (find_ofRegular_ne_aborted written engine r) ..
  refine ⟨(Scan.of (ofRegular written engine r) none t).hits.filterMap fun hit =>
    hit.groups.get? index, ?_⟩
  rw [groupValues]
  exact if_neg (by simp [haborted])

theorem Class.room_of_not_ascii {c : Class} (h : c.isAscii = false) : c.room = 128 + 62 * c.runs := by
  rw [Class.room, h, if_neg Bool.false_ne_true]

namespace Regular

theorem room_seq (a b : Regular) : (seq a b).room = a.room + b.room :=
  rfl

theorem room_look (condition : Look) : (look condition).room = stepRoom :=
  rfl

theorem room_group (index : Nat) (body : Regular) :
    (group index body).room = body.room + 2 * stepRoom :=
  rfl

theorem room_once (greedy : Bool) (body : Regular) :
    (times 1 none greedy body).room = 1 * body.room + 2 * stepRoom :=
  rfl

theorem room_set {c : Class} (h : ∀ d, c ≠ .single d) : (set c).room = c.room := by
  cases c <;> first | rfl | exact absurd rfl (h _)

theorem fits_of_room_eq {r : Regular} {n : Nat} (h : r.room = n) (hn : n ≤ maxRoom) :
    r.fits = true := by
  rw [fits, h]
  exact decide_eq_true hn

theorem room_letters_append (t : Text) (r : Regular) :
    (sequence (letters t ++ [r])).room = stepRoom * Text.byteSize t + r.room := by
  induction t with
  | nil => simp [letters, sequence, Text.byteSize]
  | cons c t ih =>
    have hne : letters t ++ [r] ≠ [] := by simp
    have hcons : (sequence (letters (c :: t) ++ [r])).room =
        stepRoom * c.utf8Size + (sequence (letters t ++ [r])).room := by
      obtain ⟨s, rest, heq⟩ := List.exists_cons_of_ne_nil hne
      rw [letters, List.map_cons, List.cons_append, ← letters, heq]
      rfl
    rw [hcons, ih, Text.byteSize, Nat.mul_add, Nat.add_assoc]

end Regular

namespace Registry

/-- The pattern of a property read off the require function. -/
def property : Regular :=
  .seq (.look (.boundary .any)) (.sequence (Regular.letters (Names.require ++ ['.']) ++
    [.group 1 (.times 1 none true (.set .word))]))

/-- The written pattern is read as the regular one, if the room is not looked at. -/
theorem readAlternatives_property :
    (Regular.readAlternatives (2 * propertyPattern.length + 2) [] [] { rest := propertyPattern }).map
      (fun (whole, r) => (whole.pattern, whole.depth, r.rest)) = some (property, 3, []) := by
  decide +kernel

/-- The room of the pattern is that of the word class, and little more.  It is computed for any number of
runs: the table of the class is too large to be looked at. -/
theorem fits_property : property.fits = true := by
  have hle (n : Nat) (hn : n ≤ 10000) : Regular.stepRoom + (Regular.stepRoom * 20 +
      (1 * (128 + 62 * n) + 2 * Regular.stepRoom + 2 * Regular.stepRoom)) ≤ Regular.maxRoom := by
    have hmax : Regular.maxRoom = 10485760 := rfl
    rw [hmax, Regular.stepRoom]
    omega
  have hruns : Class.word.runs ≤ 10000 := size_wordRanges
  have hsize : Text.byteSize (Names.require ++ ['.']) = 20 := by decide +kernel
  have hroom := Regular.room_seq (.look (.boundary .any)) (.sequence
    (Regular.letters (Names.require ++ ['.']) ++ [.group 1 (.times 1 none true (.set .word))]))
  rw [Regular.room_look, Regular.room_letters_append, hsize, Regular.room_group, Regular.room_once,
    Regular.room_set (fun _ h => by cases h), Class.room_of_not_ascii rfl] at hroom
  exact Regular.fits_of_room_eq hroom (hle _ hruns)

theorem ofText?_property : Regular.ofText? propertyPattern = some property := by
  obtain ⟨⟨whole, r⟩, hread, heq⟩ := Option.map_eq_some_iff.mp readAlternatives_property
  simp only [Prod.mk.injEq] at heq
  obtain ⟨hpattern, hdepth, hrest⟩ := heq
  rw [← hpattern]
  exact Regular.ofText?_of_read hread hrest (by rw [hdepth]; decide) (hpattern ▸ fits_property)

/-- The properties read off the require function in a span. -/
def properties (span : Text) : List Text :=
  (requireProperties span).result.toOption.getD []

theorem propertiesBy_ok {span : Text} {p : Pattern} {found : List Text}
    (h : p.groupValues span 1 = .ok found) :
    propertiesBy (.ok p) span = .done (distinct [] found) := by
  simp only [propertiesBy, bind, Except.bind, h]

/-- Reading the properties always gives an answer. -/
theorem requireProperties_eq (span : Text) : requireProperties span = .done (properties span) := by
  have hp := Pattern.ofText_of_read (by decide +kernel) ofText?_property
  obtain ⟨found, hfound⟩ := Pattern.groupValues_ofRegular propertyPattern .linear property span 1
  rw [properties, requireProperties, hp, propertiesBy_ok hfound]
  rfl

/-- The loop in front of a span, if one is called for. -/
def loopFor (layout : Layout) (span : Text) : Option Text :=
  match layout with
  | .concatenated => none
  | .modular => if (properties span).isEmpty then none else some (guardLoop (properties span))

theorem guardFor_eq (layout : Layout) (span : Text) :
    guardFor layout span = .done (loopFor layout span) := by
  cases layout with
  | concatenated => rfl
  | modular => rw [guardFor, requireProperties_eq]; rfl

end Registry

end BundleHardening
