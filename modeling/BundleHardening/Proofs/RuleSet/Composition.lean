import BundleHardening.Proofs.RuleSet.Verdict

/-!
# Rule sets one after another

A rule set followed by another comes to what the second makes of the text that the first one gives.
Errors stay as they are, except those that the second set gives a position itself: there the position
counts the rules of the first set too, and the text is the one that the whole was given
(`RuleSet.result_apply_append`).
-/

set_option autoImplicit false

namespace BundleHardening

namespace RuleSet

/-- The rules of two sets, one set after the other. -/
instance : Append RuleSet where
  append a b := { name := a.name, rules := a.rules ++ b.rules }

theorem rules_append (a b : RuleSet) : (a ++ b).rules = a.rules ++ b.rules :=
  rfl

/-- The second list of rules goes on with what the first one gives, behind its rules. -/
theorem verdictOf_append (ctx : Context) (a b : List Rule) (t : Text) :
    verdictOf ctx (a ++ b) t =
      (verdictOf ctx a t).andThen fun mid => (verdictOf ctx b mid).behind a.length := by
  induction a generalizing t with
  | nil => exact (Verdict.behind_zero _).symm
  | cons rule a ih =>
    simp only [List.cons_append, verdictOf, ih, Verdict.behind_andThen, Verdict.andThen_andThen,
      Verdict.behind_behind, List.length_cons, Nat.add_comm 1]

/-- Two rule sets one after the other give what the second makes of the text that the first one gives.  An
error of the first is the error of both, and so is an error of the second to which it did not give the
position itself; where it did, the position counts the rules of the first, and the text is the one that
both were given. -/
theorem result_apply_append (a b : RuleSet) (t : Text) (ctx : Context) :
    (∀ out, ((a ++ b).apply t ctx).result = .ok out ↔
      ∃ mid, (a.apply t ctx).result = .ok mid ∧ (b.apply mid ctx).result = .ok out) ∧
    (∀ e, (a.apply t ctx).result = .error e → ((a ++ b).apply t ctx).result = .error e) ∧
    (∀ mid e, (a.apply t ctx).result = .ok mid → (b.apply mid ctx).result = .error e →
      (∀ i raised, b.Places mid ctx i raised → ∃ rule pattern chunk,
        e = .mismatch (some i) rule pattern chunk mid ∧
        ((a ++ b).apply t ctx).result = .error (.mismatch (some (a.size + i)) rule pattern chunk t)) ∧
      ((∀ i raised, ¬b.Places mid ctx i raised) → ((a ++ b).apply t ctx).result = .error e)) := by
  have hverdict := verdictOf_append ctx a.rules b.rules t
  rw [← rules_append] at hverdict
  refine ⟨fun out => ?_, fun e he => ?_, fun mid e hmid he => ?_⟩
  · simp only [result_apply_eq_ok_iff, hverdict, Verdict.andThen_eq_text_iff,
      Verdict.behind_eq_text_iff]
  · rw [result_apply_eq_verdict] at he ⊢
    rw [hverdict]
    cases ha : verdictOf ctx a.rules t with
    | text out =>
      rw [ha] at he
      cases he
    | handedOn e' => rwa [ha] at he
    | refused i raised => rwa [ha] at he
  · rw [result_apply_eq_ok_iff.mp hmid, Verdict.andThen] at hverdict
    rw [result_apply_eq_verdict] at he
    rw [result_apply_eq_verdict (a ++ b), hverdict]
    constructor
    · intro i raised hplaces
      have hb := places_iff.mp hplaces
      obtain ⟨sub, before, hrule, hmandatory, hbefore, hraised, hunplaced⟩ := hplaces
      obtain ⟨rule, pattern, chunk, hplaced⟩ := RewriteError.exists_placed_eq hunplaced
      rw [hb] at he ⊢
      refine ⟨rule, pattern, chunk, ?_, ?_⟩
      · rw [← Except.error.inj he, hplaced, Nat.zero_add]
      · rw [Verdict.behind, Verdict.result, hplaced, Nat.zero_add, size]
    · intro hnone
      cases hb : verdictOf ctx b.rules mid with
      | text out =>
        rw [hb] at he
        cases he
      | handedOn e' => rwa [hb] at he
      | refused i raised => exact absurd (places_iff.mpr hb) (hnone i raised)

section Sample

/-- A set that writes a text twice. -/
def doubling : RuleSet where
  name := "doubling"
  rules := [.transform { name := "doubled", apply := fun t _ => .done (t ++ t) }]

/-- A set that must find what few texts hold. -/
def demanding : RuleSet where
  name := "demanding"
  rules := [.substitute (.literal "absent" "zzz".toList "q".toList)]

theorem places_demanding : demanding.Places "xx".toList {} 0
    (.mismatch none "absent" "zzz".toList "bootstrap" "xx".toList) :=
  ⟨.literal "absent" "zzz".toList "q".toList, "xx".toList, rfl, rfl, rfl, rfl, rfl⟩

/-- Behind the other set the second one is refused at its place there, with the text before doubling. -/
theorem result_apply_append_sample :
    (doubling.apply ['x'] {}).result = .ok "xx".toList ∧
    (demanding.apply "xx".toList {}).result =
      .error (.mismatch (some 0) "absent" "zzz".toList "bootstrap" "xx".toList) ∧
    ((doubling ++ demanding).apply ['x'] {}).result =
      .error (.mismatch (some 1) "absent" "zzz".toList "bootstrap" ['x']) := by
  have hfirst : (doubling.apply ['x'] {}).result = .ok "xx".toList := rfl
  have hsecond : (demanding.apply "xx".toList {}).result =
      .error (.mismatch (some 0) "absent" "zzz".toList "bootstrap" "xx".toList) := rfl
  obtain ⟨-, -, hboth⟩ := result_apply_append doubling demanding ['x'] {}
  obtain ⟨rule, pattern, chunk, heq, hresult⟩ := (hboth _ _ hfirst hsecond).1 0 _ places_demanding
  cases heq
  exact ⟨hfirst, hsecond, hresult⟩

end Sample

end RuleSet

end BundleHardening
