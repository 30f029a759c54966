import BundleHardening.Proofs.Pattern.Abort
import BundleHardening.Proofs.Rule

/-!
# The first failure of a computed replacement

A function that computes replacements is called for the matches from the left, up to the first one for
which it fails.  Its error is what the substitution ends in, whatever matches follow, as long as the
scan comes to its end (`Substitution.substitute_firstFailure`).  Where the scan is aborted behind that
match, the substitution ends in the error of the scan instead, and where a match behind it overlaps the
one in front, the program panics.  Only matching by trial is aborted, and only a pattern that may match
from before its search on makes the program panic.
-/

set_option autoImplicit false

namespace BundleHardening

namespace Run

variable {α β : Type} {f : α → Run β}

/-- The computation is carried out up to the first member for which it fails. -/
theorem each_of_fails {before : List α} {a : α} {e : RewriteError}
    (hbefore : ∀ b ∈ before, ∃ value, (f b).result = .ok value) (ha : (f a).result = .error e)
    (after : List α) :
    each f (before ++ a :: after) = ⟨(before ++ [a]).flatMap fun b => (f b).events, .error e⟩ := by
  induction before with
  | nil => simp [each, andThen_of_error ha]
  | cons b before ih =>
    obtain ⟨⟨value, hb⟩, hbefore⟩ := List.forall_mem_cons.mp hbefore
    simp [each, andThen_of_ok hb, ih hbefore]

/-- Among members for some of which the computation fails there is a first. -/
theorem exists_first_failure {as : List α}
    (h : ∃ a ∈ as, ∃ e, (f a).result = .error e) : ∃ before a after e,
      as = before ++ a :: after ∧ (∀ b ∈ before, ∃ value, (f b).result = .ok value) ∧
        (f a).result = .error e := by
  induction as with
  | nil =>
    obtain ⟨a, ha, -⟩ := h
    cases ha
  | cons a as ih =>
    cases ha : (f a).result with
    | error e => exact ⟨[], a, as, e, rfl, fun b hb => absurd hb List.not_mem_nil, ha⟩
    | ok value =>
      have hlater : ∃ b ∈ as, ∃ e, (f b).result = .error e := by
        obtain ⟨b, hb, e, he⟩ := h
        rcases List.mem_cons.mp hb with rfl | hb
        · rw [ha] at he
          cases he
        · exact ⟨b, hb, e, he⟩
      obtain ⟨before, b, after, e, rfl, hbefore, he⟩ := ih hlater
      exact ⟨a :: before, b, after, e, rfl, List.forall_mem_cons.mpr ⟨⟨value, ha⟩, hbefore⟩, he⟩

/-- A computation that succeeds for every member succeeds. -/
theorem exists_each_of_ok {as : List α} (h : ∀ a ∈ as, ∃ value, (f a).result = .ok value) :
    ∃ values, (each f as).result = .ok values := by
  induction as with
  | nil => exact ⟨[], rfl⟩
  | cons a as ih =>
    obtain ⟨⟨value, ha⟩, hlater⟩ := List.forall_mem_cons.mp h
    obtain ⟨values, hvalues⟩ := ih hlater
    exact ⟨value :: values, by rw [each, andThen_of_ok ha, andThen_of_ok hvalues]; rfl⟩

/-- The error of the computation is that of the first member for which it fails. -/
theorem result_each_eq_error_iff {as : List α} {e : RewriteError} :
    (each f as).result = .error e ↔ ∃ before a after, as = before ++ a :: after ∧
      (∀ b ∈ before, ∃ value, (f b).result = .ok value) ∧ (f a).result = .error e := by
  constructor
  · intro h
    have hfails : ∃ a ∈ as, ∃ e, (f a).result = .error e := by
      by_contra hnone
      have hok : ∀ a ∈ as, ∃ value, (f a).result = .ok value := fun a ha => by
        cases hresult : (f a).result with
        | ok value => exact ⟨value, rfl⟩
        | error e => exact absurd ⟨a, ha, e, hresult⟩ hnone
      obtain ⟨values, hvalues⟩ := exists_each_of_ok hok
      rw [hvalues] at h
      cases h
    obtain ⟨before, a, after, e', rfl, hbefore, ha⟩ := exists_first_failure hfails
    rw [each_of_fails hbefore ha after] at h
    cases h
    exact ⟨before, a, after, rfl, hbefore, ha⟩
  · rintro ⟨before, a, after, rfl, hbefore, ha⟩
    rw [each_of_fails hbefore ha after]

end Run

namespace Substitution

/-- The scan that the substitution makes of a text, if the target may occur in it and can be read. -/
def scan? (s : Substitution) (t : Text) : Option Scan :=
  if s.target.mayOccurIn t then s.target.compiled.toOption.map fun p => Scan.of p s.scope.limit t
  else none

variable {s : Substitution} {compute : Groups → Context → Run Text} {t : Text} {ctx : Context}
  {scan : Scan}

theorem exists_of_scan? (h : s.scan? t = some scan) : ∃ p, s.target.mayOccurIn t = true ∧
    s.target.compiled = .ok p ∧ scan = Scan.of p s.scope.limit t := by
  rw [scan?] at h
  split at h
  · next hmay =>
    obtain ⟨p, hp, rfl⟩ := Option.map_eq_some_iff.mp h
    cases hcompiled : s.target.compiled with
    | error e => rw [hcompiled] at hp; cases hp
    | ok p' =>
      rw [hcompiled] at hp
      cases hp
      exact ⟨p, hmay, rfl, rfl⟩
  · cases h

/-- A substitution by its scan. -/
theorem substitute_of_scan? (hscan : s.scan? t = some scan) :
    s.substitute t ctx =
      let texts := s.replacements ctx scan.reached
      if scan.overlaps then texts.panicking (s.execution .overlapping)
      else if scan.aborted then texts.failingWith (s.execution .aborted)
      else texts.andThen fun texts => .done (changed t (scan.fill texts)) := by
  obtain ⟨p, hmay, hcompiled, rfl⟩ := exists_of_scan? hscan
  simp only [substitute, hmay, if_true, hcompiled, replaceIn]
  rfl

/-- Without a scan the text is left as it is, or the target cannot be read. -/
theorem substitute_of_scan?_eq_none (ctx : Context) (hscan : s.scan? t = none) :
    s.substitute t ctx = .done none ∨
      s.target.mayOccurIn t = true ∧ ∃ fault, s.target.compiled = .error fault ∧
        s.substitute t ctx = .fail (.invalidPattern s.name s.target.written fault.message) := by
  rw [scan?] at hscan
  rw [substitute]
  split at hscan
  · next hmay =>
    cases hcompiled : s.target.compiled with
    | ok p => rw [hcompiled] at hscan; cases hscan
    | error fault => exact Or.inr ⟨hmay, fault, rfl, if_pos hmay⟩
  · next hmay => exact Or.inl (if_neg hmay)

theorem replacements_of_computed (hcompute : s.replacement = .computed compute) (hits : List Hit) :
    s.replacements ctx hits = Run.each (fun hit => compute hit.groups ctx) hits := by
  rw [replacements, hcompute]

/-- Only matching by trial is aborted. -/
theorem engine_of_aborted (hscan : s.scan? t = some scan) (haborted : scan.aborted = true) :
    ∃ p, s.target.compiled = .ok p ∧ p.engine = .backtracking := by
  obtain ⟨p, -, hcompiled, rfl⟩ := exists_of_scan? hscan
  refine ⟨p, hcompiled, ?_⟩
  cases hengine : p.engine with
  | backtracking => rfl
  | linear =>
    rw [Scan.aborted_of_linear (Target.isRead_of_compiled hcompiled) hengine] at haborted
    cases haborted

/-- Only a pattern that may match from before its search on has matches that overlap. -/
theorem reachesBack_of_overlaps (hscan : s.scan? t = some scan) (hoverlaps : scan.overlaps = true) :
    ∃ p, s.target.compiled = .ok p ∧ p.reachesBack = true := by
  obtain ⟨p, -, hcompiled, rfl⟩ := exists_of_scan? hscan
  refine ⟨p, hcompiled, ?_⟩
  cases hback : p.reachesBack with
  | true => rfl
  | false =>
    rw [Pattern.overlaps_of (Target.isRead_of_compiled hcompiled) hback] at hoverlaps
    cases hoverlaps

/-- If the function fails for some match that replacing gets to, it is called for the matches up to the first
such one and not behind it.  The substitution ends in the error of that call when the scan comes to its end,
and in that of the scan when it is aborted, which happens only to matching by trial.  When a match overlaps
the one in front of it, which happens only to a pattern that reaches back, replacing gets to the matches in
front of it, and then panics. -/
theorem substitute_firstFailure (hcompute : s.replacement = .computed compute)
    (hscan : s.scan? t = some scan)
    (hfails : ∃ hit ∈ scan.reached, ∃ e, (compute hit.groups ctx).result = .error e) :
    ∃ before hit after e,
      let events := (before ++ [hit]).flatMap fun called => (compute called.groups ctx).events
      scan.reached = before ++ hit :: after ∧
      (∀ earlier ∈ before, ∃ new, (compute earlier.groups ctx).result = .ok new) ∧
      (compute hit.groups ctx).result = .error e ∧
      (s.substitute t ctx =
        if scan.overlaps then ⟨events ++ [.panicked s.name], .error (s.execution .overlapping)⟩
        else ⟨events, .error (if scan.aborted then s.execution .aborted else e)⟩) ∧
      (scan.overlaps = false → scan.reached = scan.hits) ∧
      (scan.aborted = true → ∃ p, s.target.compiled = .ok p ∧ p.engine = .backtracking) ∧
      (scan.overlaps = true → ∃ p, s.target.compiled = .ok p ∧ p.reachesBack = true) := by
  obtain ⟨before, hit, after, e, hreached, hbefore, he⟩ :=
    Run.exists_first_failure (f := fun hit : Hit => compute hit.groups ctx) hfails
  refine ⟨before, hit, after, e, hreached, hbefore, he, ?_, Scan.reached_eq_hits, engine_of_aborted hscan,
    reachesBack_of_overlaps hscan⟩
  have heach := Run.each_of_fails (f := fun hit : Hit => compute hit.groups ctx) hbefore he after
  rw [substitute_of_scan? hscan, replacements_of_computed hcompute, hreached, heach]
  cases scan.overlaps with
  | true => rfl
  | false => cases scan.aborted <;> rfl

/-- The function refuses the match ab, and the match bc behind it overlaps it. -/
example :
    ((Substitution.regex "overlapping" "(?<=\\Ka)b|(?<=\\Kb)c".toList (.computed fun g ctx =>
      .fail (.mismatch none "inner" [] ctx.displayName g.whole))).substitute "abc".toList {}).panics = true := by
  decide +kernel

section Sample

/-- A rule that keeps the letter a and refuses each other match in its own words. -/
def refusing : Substitution :=
  .regex "refusing" "[ab]".toList (.computed fun g ctx =>
    if g.whole = ['a'] then .done g.whole
    else .fail (.mismatch none "inner" g.after ctx.displayName g.whole))

/-- The scan of the sample text. -/
def refusingScan : Scan where
  hits := [⟨[], ⟨[some ['a']], ['b', 'b']⟩⟩, ⟨[], ⟨[some ['b']], ['b']⟩⟩, ⟨[], ⟨[some ['b']], []⟩⟩]
  tail := []
  aborted := false

theorem scan?_refusing : refusing.scan? "abb".toList = some refusingScan := by
  rfl

/-- The second match is refused, and its error reported; the third would be refused in other words. -/
theorem substitute_firstFailure_refusing :
    (refusing.substitute "abb".toList {}).result =
      .error (.mismatch none "inner" ['b'] "bootstrap" ['b']) := by
  have hreached : refusingScan.reached = refusingScan.hits := rfl
  obtain ⟨before, hit, after, e, hhits, hbefore, he, hsubstitute, -⟩ :=
    substitute_firstFailure rfl scan?_refusing
      (by rw [hreached]; exact ⟨_, List.mem_cons_of_mem _ List.mem_cons_self, _, rfl⟩)
  rw [hreached] at hhits
  rw [hsubstitute]
  match before, hhits with
  | [], hhits =>
    cases hhits
    cases he
  | [_], hhits =>
    cases hhits
    cases he
    rfl
  | _ :: later :: _, hhits =>
    simp only [refusingScan, List.cons_append, List.cons.injEq] at hhits
    obtain ⟨-, rfl, -⟩ := hhits
    obtain ⟨new, hnew⟩ := hbefore _ (List.mem_cons_of_mem _ List.mem_cons_self)
    cases hnew

/-- A rule whose function fails for every match.  Where no b stands, its pattern looks for one of two
letters so often that matching by trial gives up. -/
def exhausting : Substitution :=
  .regex "exhausting" "b|(?:(?=c)|(?=a))\x7b2000000\x7d".toList (.computed fun g ctx =>
    .fail (.mismatch (some 7) "inner" "inner-pattern".toList ctx.displayName g.whole))

/-- The steps of its pattern, with so many rounds. -/
def exhaustingCode (rounds : Nat) : Code :=
  .choice (.one (.single 'b'))
    (.counted 0 rounds (some rounds) true (Trial.lookTwice (.single 'c') (.single 'a')))

/-- The pattern of the rule, with so many rounds. -/
def exhaustingPattern (rounds : Nat) : Pattern where
  written := exhausting.target.written
  engine := .backtracking
  groups := 1
  matcher := .trials (exhaustingCode rounds) 1

theorem compiled_exhausting : exhausting.target.compiled = .ok (exhaustingPattern 2000000) := by
  let look (letter : Char) : Extended := .around true true (.set (.single letter))
  have hread : Extended.ofText? exhausting.target.written =
      some (.alt [.set (.single 'b'),
        .times 2000000 (some 2000000) true (.alt [look 'c', look 'a'])], 1, []) := rfl
  exact Pattern.ofText_of_code rfl hread rfl rfl

/-- At the beginning of the text the letter b is found, after a few steps. -/
theorem find_exhausting_letter (rounds : Nat) :
    (exhaustingPattern rounds).find (Cursor.start ['b', 'a']) =
      .found ⟨⟨0, [], ['b', 'a']⟩, ⟨1, ['b'], ['a']⟩, []⟩ := by
  have hattempt : ∀ fuel, Trial.attempt 0 (fuel + 20)
      ⟨[.run (Trial.searching (exhaustingCode rounds))], Cursor.start ['b', 'a'], .blank 1 1⟩ [] 0 =
        .matched ⟨[some ⟨0, [], ['b', 'a']⟩, some ⟨1, ['b'], ['a']⟩], [(0, none)]⟩ := fun _ => rfl
  obtain ⟨fuel, hfuel⟩ : ∃ fuel, ((exhaustingCode rounds).weight + 8) * 4 * 4 * 4 = fuel + 20 :=
    ⟨((exhaustingCode rounds).weight + 8) * 4 * 4 * 4 - 20, by omega⟩
  have hsearch : Trial.search (exhaustingCode rounds) 1 1 (Cursor.start ['b', 'a']) =
      .matched ⟨[some ⟨0, [], ['b', 'a']⟩, some ⟨1, ['b'], ['a']⟩], [(0, none)]⟩ := by
    change Trial.retry 0 (((exhaustingCode rounds).weight + 8) * 4 * 4 * 4) _ _ _ _ = _
    rw [hfuel, Trial.retry, hattempt]
  simp only [Pattern.find, exhaustingPattern, hsearch]
  rfl

/-- Behind it, the search gives up. -/
theorem find_exhausting_behind {rounds : Nat} (hrounds : Trial.maxReturns ≤ rounds) :
    (exhaustingPattern rounds).find ⟨1, ['b'], ['a']⟩ = .aborted := by
  have hsearch : Trial.search (exhaustingCode rounds) 1 1 ⟨1, ['b'], ['a']⟩ = .aborted :=
    Trial.search_rounds rfl (by decide) (by decide) (by decide) hrounds
  simp only [Pattern.find, exhaustingPattern, hsearch]

/-- The scan finds the letter, and is aborted behind it. -/
theorem scan?_exhausting : exhausting.scan? ['b', 'a'] =
    some ⟨[⟨[], ⟨[some ['b']], ['a']⟩⟩], ['a'], true⟩ := by
  have hrounds : Trial.maxReturns ≤ 2000000 := by simp [Trial.maxReturns]
  have hmay : exhausting.target.mayOccurIn ['b', 'a'] = true := rfl
  have hlimit : exhausting.scope.limit = none := rfl
  have hfirst := find_exhausting_letter 2000000
  have hbehind := find_exhausting_behind hrounds
  simp only [scan?, hmay, if_true, compiled_exhausting, hlimit]
  -- From here on the pattern must not be unfolded.
  generalize exhaustingPattern 2000000 = p at hfirst hbehind
  simp [Except.toOption, Scan.of, Scan.collect, Scan.groupsOf, Cursor.upTo, hfirst, hbehind]

/-- The function fails for the match, and the substitution ends in the error of the scan. -/
theorem substitute_exhausting : ∃ compute scan hit e, exhausting.replacement = .computed compute ∧
    exhausting.scan? ['b', 'a'] = some scan ∧ scan.hits = [hit] ∧
    (compute hit.groups {}).result = .error e ∧
    (exhausting.substitute ['b', 'a'] {}).result = .error (exhausting.execution .aborted) ∧
    e ≠ exhausting.execution .aborted := by
  refine ⟨_, _, _, _, rfl, scan?_exhausting, rfl, rfl, ?_, fun h => by cases h⟩
  rw [substitute_of_scan? scan?_exhausting]
  rfl

end Sample

end Substitution

end BundleHardening
