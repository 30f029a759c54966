import BundleHardening.Proofs.Pattern.Form
import BundleHardening.Proofs.Pattern.Matches

/-!
# Rules that act as functions

A substitution for a pattern that reads a form, with a replacement that never fails, *acts* as a
function on texts: it answers with the function's value, or with nothing where the function changes
nothing.

A *step* is a mandatory substitution together with what it acts as.  `RuleSet.runFrom_steps` says
what a list of steps comes to: the functions one after another, unless one of them changes nothing;
the first such step is blamed, at its position and with the text given to the rule set.
-/

set_option autoImplicit false

namespace BundleHardening

namespace RewriteError

/-- An error that was given a position has one. -/
theorem isUnplaced_placed (e : RewriteError) (index : Nat) (source : Text) :
    (e.placed index source).isUnplaced = false := by
  cases e with
  | mismatch i rule pattern chunk source => cases i <;> rfl
  | invalidPattern rule pattern reason => rfl
  | execution rule pattern reason => rfl

/-- An error without a position is a mismatch, and only the position and the text given to the rule set
are filled in. -/
theorem exists_placed_mismatch {e : RewriteError} (h : e.isUnplaced = true) :
    ∃ chunk, ∀ index source,
      e.placed index source = .mismatch (some index) e.rule e.pattern chunk source := by
  cases e with
  | mismatch index rule pattern chunk source =>
    cases index with
    | none => exact ⟨chunk, fun _ _ => rfl⟩
    | some index => cases h
  | invalidPattern rule pattern reason => cases h
  | execution rule pattern reason => cases h

theorem exists_placed_eq {e : RewriteError} (h : e.isUnplaced = true) :
    ∃ rule pattern chunk, ∀ index source,
      e.placed index source = .mismatch (some index) rule pattern chunk source :=
  ⟨e.rule, e.pattern, exists_placed_mismatch h⟩

end RewriteError

namespace Run

variable {α β : Type}

theorem bind_eq (r : Run α) (f : α → Run β) : r >>= f = r.andThen f :=
  rfl

theorem pure_eq (a : α) : (pure a : Run α) = done a :=
  rfl

@[simp]
theorem done_andThen (a : α) (f : α → Run β) : (done a).andThen f = f a :=
  rfl

@[simp]
theorem note_andThen (e : Event) (f : Unit → Run β) :
    (note e).andThen f = ⟨e :: (f ()).events, (f ()).result⟩ :=
  rfl

@[simp]
theorem ok_andThen (events : List Event) (a : α) (f : α → Run β) :
    (⟨events, .ok a⟩ : Run α).andThen f = ⟨events ++ (f a).events, (f a).result⟩ :=
  rfl

@[simp]
theorem error_andThen (events : List Event) (e : RewriteError) (f : α → Run β) :
    (⟨events, .error e⟩ : Run α).andThen f = ⟨events, .error e⟩ :=
  rfl

theorem andThen_done (r : Run α) : r.andThen done = r := by
  obtain ⟨events, result⟩ := r
  cases result with
  | ok a => simp [done]
  | error e => rfl

theorem andThen_of_ok {r : Run α} {a : α} (h : r.result = .ok a) (f : α → Run β) :
    r.andThen f = ⟨r.events ++ (f a).events, (f a).result⟩ := by
  rw [andThen, h]

theorem andThen_of_error {r : Run α} {e : RewriteError} (h : r.result = .error e) (f : α → Run β) :
    r.andThen f = ⟨r.events, .error e⟩ := by
  rw [andThen, h]

section Placed

variable {r : Run α} {e : RewriteError} (rule : String) (index : Nat) (source : Text)

theorem placed_of_ok {a : α} (h : r.result = .ok a) : r.placed rule index source = r := by
  rw [placed, h]

/-- An error without a position is given one, and leaves an event. -/
theorem placed_of_unplaced (h : r.result = .error e) (hunplaced : e.isUnplaced = true) :
    r.placed rule index source =
      let e := e.placed index source
      ⟨r.events ++ [.refused rule index e source], .error e⟩ := by
  simp only [placed, h, hunplaced, if_true]

/-- An error that has a position, or needs none, is left alone. -/
theorem placed_of_placed (h : r.result = .error e) (hplaced : e.isUnplaced = false) :
    r.placed rule index source = r := by
  simp only [placed, h, hplaced, Bool.false_eq_true, if_false]

end Placed

theorem each_done {f : α → Run β} {g : α → β} (h : ∀ a, f a = done (g a)) (as : List α) :
    each f as = done (as.map g) := by
  induction as with
  | nil => rfl
  | cons a as ih => rw [each, h a, ih]; rfl

end Run

/-- Whether the event is that of a registry. -/
def Event.isLocated : Event → Bool
  | registryLocated _ _ => true
  | _ => false

/-- The answer of a substitution on a text that comes out as given. -/
def changed (t out : Text) : Option Text :=
  if out = t then none else some out

/-- A target that can be read is a pattern read from a text. -/
theorem Target.isRead_of_compiled {target : Target} {p : Pattern} (h : target.compiled = .ok p) :
    p.IsRead := by
  cases target with
  | exact text => exact Pattern.IsRead.of_literal h
  | pattern written => exact Pattern.IsRead.of_ofText h

namespace Substitution

variable {s : Substitution} {f : Form} {p : Pattern} {new : Groups → Text} {act : Text → Text}

/-- Where no matches overlap, all of them are replaced. -/
theorem replaceIn_of_apart {t : Text} (h : (Scan.of p s.scope.limit t).overlaps = false) (ctx : Context) :
    s.replaceIn p t ctx =
      let scan := Scan.of p s.scope.limit t
      let texts := s.replacements ctx scan.hits
      if scan.aborted then texts.failingWith (s.execution .aborted)
      else texts.andThen fun texts => .done (changed t (scan.fill texts)) := by
  simp only [replaceIn, h, Bool.false_eq_true, if_false, Scan.reached_eq_hits h]
  rfl

/-- A pattern of the linear dialect replaces all its matches. -/
theorem replaceIn_of_linear (hcompiled : s.target.compiled = .ok p) (hlinear : p.engine = .linear)
    (t : Text) (ctx : Context) :
    s.replaceIn p t ctx = (s.replacements ctx (Scan.of p s.scope.limit t).hits).andThen fun texts =>
      .done (changed t ((Scan.of p s.scope.limit t).fill texts)) := by
  have hread : p.IsRead := Target.isRead_of_compiled hcompiled
  have hback := hread.reachesBack_of_linear hlinear
  rw [replaceIn_of_apart (Pattern.overlaps_of hread hback _ t)]
  exact if_neg (Bool.eq_false_iff.mp (Scan.aborted_of_linear hread hlinear _ t))

/-- The substitution rewrites every text as the function does, without an event and without failing. -/
def Acts (s : Substitution) (act : Text → Text) : Prop :=
  ∀ (t : Text) (ctx : Context), s.substitute t ctx = .done (changed t (act t))

/-- Replacing all matches of a pattern that reads a form is rewriting by the form. -/
theorem acts_of_finds (hcompiled : s.target.compiled = .ok p) (hfinds : p.Finds f)
    (hscope : s.scope = .all)
    (hnew : ∀ ctx hits, s.replacements ctx hits = .done (hits.map fun hit => new hit.groups))
    (hmay : ∀ t, s.target.mayOccurIn t = false → f.rewrite new t = t) :
    s.Acts (f.rewrite new) := by
  intro t ctx
  rw [substitute]
  cases hm : s.target.mayOccurIn t with
  | false => rw [hmay t hm, changed, if_pos rfl]; rfl
  | true =>
    simp only [if_true, hcompiled, replaceIn_of_linear hcompiled hfinds.linear, hscope, Scope.limit,
      Scan.of_all hfinds, hnew]
    rfl

/-- Replacing the first match of a pattern that reads a form. -/
theorem substitute_first (hcompiled : s.target.compiled = .ok p) (hfinds : p.Finds f)
    (hscope : s.scope = .first) {compute : Groups → Context → Run Text}
    (hcompute : s.replacement = .computed compute) {t : Text} (hmay : s.target.mayOccurIn t = true)
    (ctx : Context) :
    s.substitute t ctx =
      match f.first? t with
      | none => .done none
      | some hit => (compute hit.groups ctx).andThen fun new =>
          .done (changed t (hit.gap ++ (new ++ hit.groups.after))) := by
  simp only [substitute, hmay, if_true, hcompiled, replaceIn_of_linear hcompiled hfinds.linear, hscope,
    Scope.limit, Scan.of_first hfinds, replacements, hcompute]
  cases f.first? t with
  | none => simp [Run.each, Scan.fill, changed]
  | some hit =>
    simp only [Run.each, Run.andThen]
    cases (compute hit.groups ctx).result with
    | error e => rfl
    | ok new => simp [Run.done, Scan.fill, changed]

/-- The error of a mandatory substitution that changed nothing at a position of a rule set. -/
def refusal (s : Substitution) (index : Nat) (ctx : Context) (source : Text) : RewriteError :=
  .mismatch (some index) s.name s.target.written ctx.displayName source

section Mandatory

variable (index : Nat) (source : Text) {t out : Text} {ctx : Context}

theorem run_eq_of_mandatory (hmandatory : s.mandatory = true) :
    (Rule.substitute s).run index source t ctx =
      ((s.assertMatched t ctx).placed s.name index source).andThen fun out =>
        ⟨[.mandatoryApplied s.name], .ok out⟩ := by
  rw [Rule.run, if_pos hmandatory]
  rfl

/-- A mandatory substitution that changes the text goes on with the new text. -/
theorem run_of_some (hmandatory : s.mandatory = true)
    (h : (s.substitute t ctx).result = .ok (some out)) :
    (Rule.substitute s).run index source t ctx =
      ⟨(s.substitute t ctx).events ++ [.mandatoryApplied s.name], .ok out⟩ := by
  have hmatched : s.assertMatched t ctx = ⟨(s.substitute t ctx).events, .ok out⟩ := by
    rw [assertMatched, Run.bind_eq, Run.andThen_of_ok h]
    simp only [Run.pure_eq, Run.done, List.append_nil]
  rw [run_eq_of_mandatory index source hmandatory, hmatched]
  rfl

/-- An error without a position is given that of the rule. -/
theorem run_of_unplaced {raised : RewriteError} (hmandatory : s.mandatory = true)
    (h : (s.assertMatched t ctx).result = .error raised) (hunplaced : raised.isUnplaced = true) :
    let e := raised.placed index source
    (Rule.substitute s).run index source t ctx =
      ⟨(s.assertMatched t ctx).events ++ [.refused s.name index e source], .error e⟩ := by
  rw [run_eq_of_mandatory index source hmandatory, Run.placed_of_unplaced _ _ _ h hunplaced]
  rfl

/-- A mandatory substitution that changes nothing fails at its position. -/
theorem run_of_none (hmandatory : s.mandatory = true)
    (h : (s.substitute t ctx).result = .ok none) :
    let e := s.refusal index ctx source
    (Rule.substitute s).run index source t ctx =
      ⟨(s.substitute t ctx).events ++ [.refused s.name index e source], .error e⟩ := by
  have hmatched : s.assertMatched t ctx = ⟨(s.substitute t ctx).events, .error (s.mismatch ctx t)⟩ := by
    rw [assertMatched, Run.bind_eq, Run.andThen_of_ok h]
    simp only [Run.fail, List.append_nil]
  have hrun := run_of_unplaced index source hmandatory (congrArg Run.result hmatched) rfl
  rwa [hmatched] at hrun

/-- An error that has its position stays as it is. -/
theorem run_of_error {e : RewriteError} (hmandatory : s.mandatory = true)
    (h : (s.substitute t ctx).result = .error e) (hplaced : e.isUnplaced = false) :
    (Rule.substitute s).run index source t ctx = ⟨(s.substitute t ctx).events, .error e⟩ := by
  have hmatched : s.assertMatched t ctx = ⟨(s.substitute t ctx).events, .error e⟩ := by
    rw [assertMatched, Run.bind_eq, Run.andThen_of_error h]
  rw [run_eq_of_mandatory index source hmandatory, hmatched]
  simp only [Run.placed, hplaced]
  rfl

/-- A mandatory substitution fails where what it acts as changes nothing. -/
theorem run_mandatory (hacts : s.Acts act) (hmandatory : s.mandatory = true) (t : Text)
    (ctx : Context) :
    (Rule.substitute s).run index source t ctx =
      if act t = t then
        let e := s.refusal index ctx source
        ⟨[.refused s.name index e source], .error e⟩
      else ⟨[.mandatoryApplied s.name], .ok (act t)⟩ := by
  have hsub := hacts t ctx
  by_cases h : act t = t
  · rw [changed, if_pos h] at hsub
    rw [if_pos h, run_of_none index source hmandatory (by rw [hsub]; rfl), hsub]
    rfl
  · rw [changed, if_neg h] at hsub
    rw [if_neg h, run_of_some index source hmandatory (by rw [hsub]; rfl), hsub]
    rfl

end Mandatory

/-- An optional substitution leaves the text to what it acts as. -/
theorem run_optional (hacts : s.Acts act) (hmandatory : s.mandatory = false) (index : Nat)
    (source t : Text) (ctx : Context) :
    (Rule.substitute s).run index source t ctx =
      ⟨[if act t = t then .optionalMissed s.name else .optionalApplied s.name], .ok (act t)⟩ := by
  simp only [Rule.run, hmandatory, Bool.false_eq_true, if_false, Run.bind_eq, hacts t ctx, changed,
    Run.done_andThen]
  by_cases h : act t = t
  · simp only [h]
    rfl
  · simp only [if_neg h]
    rfl

end Substitution

/-- A mandatory substitution with the function that it acts as. -/
structure Step where
  substitution : Substitution
  act : Text → Text
  mandatory : substitution.mandatory = true
  acts : substitution.Acts act

namespace Step

/-- The step as a rule. -/
def rule (s : Step) : Rule :=
  .substitute s.substitution

/-- The functions of the steps, one after another. -/
def all : List Step → Text → Text
  | [], t => t
  | s :: steps, t => all steps (s.act t)

/-- The first step that changes nothing, with its position. -/
def firstIdle? : List Step → Text → Option (Nat × Step)
  | [], _ => none
  | s :: steps, t =>
    if s.act t = t then some (0, s)
    else (firstIdle? steps (s.act t)).map fun (i, s) => (i + 1, s)

/-- The text that the step at the position is given is one it does not change. -/
theorem of_firstIdle? {steps : List Step} {t : Text} {i : Nat} {s : Step}
    (h : firstIdle? steps t = some (i, s)) :
    steps[i]? = some s ∧ s.act (all (steps.take i) t) = all (steps.take i) t := by
  induction steps generalizing t i with
  | nil => cases h
  | cons s' steps ih =>
    rw [firstIdle?] at h
    split at h
    · next hidle =>
      cases h
      exact ⟨rfl, hidle⟩
    · obtain ⟨⟨i', _⟩, hin, heq⟩ := Option.map_eq_some_iff.mp h
      cases heq
      exact ih hin

/-- No step is idle when each changes the text that it is given. -/
theorem firstIdle?_eq_none {steps : List Step} {t : Text}
    (h : ∀ i s, steps[i]? = some s → s.act (all (steps.take i) t) ≠ all (steps.take i) t) :
    firstIdle? steps t = none := by
  induction steps generalizing t with
  | nil => rfl
  | cons s steps ih =>
    have hfirst : s.act t ≠ t := h 0 s rfl
    rw [firstIdle?, if_neg hfirst, ih fun i s' hs' => h (i + 1) s' hs']
    rfl

/-- The first idle step is the one behind steps that all change the text that they are given. -/
theorem firstIdle?_eq_some {steps : List Step} {t : Text} {i : Nat} {s : Step}
    (hs : steps[i]? = some s) (hidle : s.act (all (steps.take i) t) = all (steps.take i) t)
    (hbefore : ∀ j < i, ∀ s', steps[j]? = some s' →
      s'.act (all (steps.take j) t) ≠ all (steps.take j) t) :
    firstIdle? steps t = some (i, s) := by
  induction steps generalizing t i with
  | nil => cases hs
  | cons s' steps ih =>
    cases i with
    | zero =>
      cases hs
      have hfirst : s.act t = t := hidle
      rw [firstIdle?, if_pos hfirst]
    | succ i =>
      have hfirst : s'.act t ≠ t := hbefore 0 (Nat.succ_pos i) s' rfl
      rw [firstIdle?, if_neg hfirst, ih hs hidle fun j hj s'' hs'' =>
        hbefore (j + 1) (Nat.succ_lt_succ hj) s'' hs'']
      rfl

end Step

namespace RuleSet

/-- Steps run to the end, or up to the first one that changes nothing. -/
theorem runFrom_steps (ctx : Context) (source : Text) (steps : List Step) (index : Nat) (t : Text) :
    (runFrom ctx source index (steps.map Step.rule) t).result =
      match Step.firstIdle? steps t with
      | none => .ok (Step.all steps t)
      | some (i, s) => .error (s.substitution.refusal (index + i) ctx source) := by
  induction steps generalizing index t with
  | nil => rfl
  | cons s steps ih =>
    rw [List.map_cons, runFrom, Run.bind_eq, Step.rule,
      Substitution.run_mandatory _ _ s.acts s.mandatory, Step.firstIdle?]
    split
    · rfl
    · have hlater := ih (index + 1) (s.act t)
      simp only [Run.andThen]
      rw [hlater]
      cases Step.firstIdle? steps (s.act t) with
      | none => rfl
      | some found =>
        simp only [Option.map_some]
        rw [Nat.add_right_comm, Nat.add_assoc]

/-- Steps leave no event of a registry. -/
theorem located_steps (ctx : Context) (source : Text) (steps : List Step) (index : Nat) (t : Text) :
    (runFrom ctx source index (steps.map Step.rule) t).events.filter Event.isLocated = [] := by
  induction steps generalizing index t with
  | nil => rfl
  | cons s steps ih =>
    rw [List.map_cons, runFrom, Run.bind_eq, Step.rule,
      Substitution.run_mandatory _ _ s.acts s.mandatory]
    split
    · rfl
    · exact ih (index + 1) (s.act t)

end RuleSet

end BundleHardening
