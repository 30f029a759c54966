import BundleHardening.Hardening.MainChunk
import BundleHardening.Proofs.Pattern.Literal
import BundleHardening.Proofs.RuleSet.Origin

/-!
# One dump for each refusal

A refusal leaves an event that carries the whole text, a dump, and rule sets may run inside the functions
of other rule sets.  If these functions hand on the errors of the rewrites that they carry out
(`Run.HandsOn`), a run that ends in a text leaves no dump and any other at most one.

An error with a position has it from a function that raised it so, or from a rule set that was carried out
in the course of the run.  `Run.Attached` is the second, told from the results of the runs alone.  No level
on the way forgets the dump of such an error, so that there is exactly one, and it belongs to the error
(`RuleSet.dumps_apply`).
-/

set_option autoImplicit false

namespace BundleHardening

/-- The run is one of a function that the rule is made with. -/
inductive Rule.Calls : Rule → Run Text → Prop
  | computed {s : Substitution} {compute : Groups → Context → Run Text}
      (h : s.replacement = .computed compute) (g : Groups) (ctx : Context) :
    Calls (.substitute s) (compute g ctx)
  | transform (f : Transform) (t : Text) (ctx : Context) : Calls (.transform f) (f.apply t ctx)

/-- A run that the rule comes to is one of a function that it is made with. -/
theorem Rule.Reaches.calls {rule : Rule} {t : Text} {ctx : Context} {r : Run Text}
    (h : rule.Reaches t ctx r) : rule.Calls r := by
  cases rule with
  | transform f =>
    obtain rfl : r = f.apply t ctx := h
    exact .transform f t ctx
  | substitute s =>
    obtain ⟨compute, scan, before, hit, after, hcompute, -, -, -, -, -, rfl⟩ := h
    exact .computed hcompute hit.groups ctx

namespace Run

/-- The computation may leave events other than dumps, raise errors of its own, and carry out
substitutions and rule sets, at whatever depth; it hands on their errors as they are.  Of the errors
that it raises itself, those with a position are `own`. -/
inductive HandsOn (own : RewriteError → Prop) : {α : Type} → Run α → Prop
  | done {α : Type} (a : α) : HandsOn own (done a)
  | fail {α : Type} (e : RewriteError) (h : e.index?.isSome → own e) : HandsOn own (fail e : Run α)
  | note (event : Event) (h : event.level ≠ .error) : HandsOn own (note event)
  | andThen {α β : Type} {r : Run α} {f : α → Run β} (hr : HandsOn own r)
      (hf : ∀ a, r.result = .ok a → HandsOn own (f a)) : HandsOn own (r.andThen f)
  /-- Hands on the error late, after work that did not fail. -/
  | late {α β γ : Type} {r : Run α} {more : Run β} {e : RewriteError} {b : β} (hr : HandsOn own r)
      (herror : r.result = .error e) (hmore : HandsOn own more) (hok : more.result = .ok b) :
    HandsOn own (⟨r.events ++ more.events, .error e⟩ : Run γ)
  | substitute {s : Substitution} (h : ∀ r, (Rule.substitute s).Calls r → HandsOn own r) (t : Text)
      (ctx : Context) : HandsOn own (s.substitute t ctx)
  | apply {s : RuleSet} (h : ∀ rule ∈ s.rules, ∀ r, rule.Calls r → HandsOn own r) (t : Text)
      (ctx : Context) : HandsOn own (s.apply t ctx)

/-- The run ends in the error, and a rule set that was carried out in its course has given the error its
position: the run itself, or that of a function in it which failed. -/
inductive Attached (e : RewriteError) : {α : Type} → Run α → Prop
  | here {s : RuleSet} {t : Text} {ctx : Context} {i : Nat} {raised : RewriteError}
      (h : s.Places t ctx i raised) (he : raised.placed i t = e) : Attached e (s.apply t ctx)
  | apply {s : RuleSet} {t before : Text} {ctx : Context} {i : Nat} {rule : Rule} {r : Run Text}
      (hrule : s.rules[i]? = some rule) (hbefore : ((s.take i).apply t ctx).result = .ok before)
      (h : rule.Reaches before ctx r) (hr : Attached e r) : Attached e (s.apply t ctx)
  | substitute {s : Substitution} {t : Text} {ctx : Context} {r : Run Text} (h : s.Reaches t ctx r)
      (hr : Attached e r) : Attached e (s.substitute t ctx)
  | first {α β : Type} {r : Run α} (hr : Attached e r) (f : α → Run β) : Attached e (r.andThen f)
  | next {α β : Type} {r : Run α} {f : α → Run β} {a : α} (hr : r.result = .ok a)
      (hf : Attached e (f a)) : Attached e (r.andThen f)
  | late {α β γ : Type} {r : Run α} (hr : Attached e r) (more : Run β) :
    Attached e (⟨r.events ++ more.events, .error e⟩ : Run γ)

variable {α β γ : Type} {r : Run α} {e : RewriteError}

/-- The events that carry the text of a refusal. -/
def dumps (r : Run α) : List Event :=
  r.events.filter (·.level = .error)

theorem mem_dumps {event : Event} : event ∈ r.dumps ↔ event ∈ r.events ∧ event.level = .error := by
  rw [dumps, List.mem_filter, decide_eq_true_iff]

theorem dumps_mk_append (before after : List Event) (result : Except RewriteError α) :
    dumps ⟨before ++ after, result⟩ =
      before.filter (·.level = .error) ++ after.filter (·.level = .error) :=
  List.filter_append before after

/-! ## At most one -/

/-- There is at most one dump, and none in a run that ends in a value or in an error without a
position. -/
structure Accounted (r : Run α) : Prop where
  atMost : r.dumps.length ≤ 1
  silent : (∀ e, r.result = .error e → e.isUnplaced = true) → r.dumps = []

namespace Accounted

theorem of_dumps_eq_nil (h : r.dumps = []) : r.Accounted where
  atMost := by rw [h]; exact Nat.zero_le 1
  silent _ := h

theorem dumps_of_ok (h : r.Accounted) {a : α} (hok : r.result = .ok a) : r.dumps = [] :=
  h.silent fun _ he => nomatch hok.symm.trans he

theorem dumps_of_unplaced (h : r.Accounted) (herror : r.result = .error e)
    (hunplaced : e.isUnplaced = true) : r.dumps = [] :=
  h.silent fun _ he => Except.error.inj (herror.symm.trans he) ▸ hunplaced

/-- The account of a run depends on its dumps and the error it ends in. -/
theorem of_error {r' : Run β} (h : r.Accounted) (herror : r.result = .error e)
    (hdumps : r'.dumps = r.dumps) (herror' : r'.result = .error e) : r'.Accounted where
  atMost := hdumps ▸ h.atMost
  silent hunplaced := hdumps.trans (h.dumps_of_unplaced herror (hunplaced e herror'))

theorem andThen {f : α → Run β} (h : r.Accounted) (hf : ∀ a, r.result = .ok a → (f a).Accounted) :
    (r.andThen f).Accounted := by
  cases hresult : r.result with
  | error e =>
    rw [andThen_of_error hresult]
    exact h.of_error hresult rfl rfl
  | ok a =>
    have hdumps : (r.andThen f).dumps = (f a).dumps := by
      rw [andThen_of_ok hresult, dumps_mk_append]
      exact (congrArg (· ++ (f a).dumps) (h.dumps_of_ok hresult)).trans (List.nil_append _)
    have hend : (r.andThen f).result = (f a).result := by rw [andThen_of_ok hresult]
    have hnext := hf a hresult
    exact ⟨hdumps ▸ hnext.atMost, fun hunplaced => hdumps.trans (hnext.silent (hend ▸ hunplaced))⟩

theorem failingWith (h : r.Accounted) (hplaced : e.isUnplaced = false) :
    (r.failingWith e : Run β).Accounted where
  atMost := h.atMost
  silent hunplaced := nomatch hplaced.symm.trans (hunplaced e rfl)

/-- A panic is no dump. -/
theorem panicking (h : r.Accounted) (hplaced : e.isUnplaced = false) :
    (r.panicking e : Run β).Accounted where
  atMost := by
    have hdumps : (r.panicking e : Run β).dumps = r.dumps :=
      (dumps_mk_append _ _ _).trans (List.append_nil _)
    rw [hdumps]
    exact h.atMost
  silent hunplaced := nomatch hplaced.symm.trans (hunplaced e rfl)

/-- An error that is given its position had no dump before, and has one then. -/
theorem placed (h : r.Accounted) (rule : String) (index : Nat) (source : Text) :
    (r.placed rule index source).Accounted := by
  cases hresult : r.result with
  | ok a => rwa [placed_of_ok _ _ _ hresult]
  | error e =>
    cases hplaced : e.isUnplaced with
    | false => rwa [placed_of_placed _ _ _ hresult hplaced]
    | true =>
      rw [placed_of_unplaced _ _ _ hresult hplaced]
      have hdumps : dumps (⟨r.events ++ [.refused rule index (e.placed index source) source],
          .error (e.placed index source)⟩ : Run α) =
          [.refused rule index (e.placed index source) source] := by
        rw [dumps_mk_append]
        exact congrArg (· ++ [_]) (h.dumps_of_unplaced hresult hplaced)
      refine ⟨by rw [hdumps]; exact Nat.le_refl 1, fun hunplaced => ?_⟩
      have hstill := hunplaced _ rfl
      rw [e.isUnplaced_placed] at hstill
      cases hstill

theorem late {more : Run β} {b : β} (h : r.Accounted) (herror : r.result = .error e)
    (hmore : more.Accounted) (hok : more.result = .ok b) :
    (⟨r.events ++ more.events, .error e⟩ : Run γ).Accounted := by
  have hdumps : dumps (⟨r.events ++ more.events, .error e⟩ : Run γ) = r.dumps := by
    rw [dumps_mk_append]
    exact (congrArg (r.dumps ++ ·) (hmore.dumps_of_ok hok)).trans (List.append_nil _)
  exact h.of_error herror hdumps rfl

theorem each {f : α → Run β} (h : ∀ a, (f a).Accounted) (as : List α) :
    (Run.each f as).Accounted := by
  induction as with
  | nil => exact of_dumps_eq_nil rfl
  | cons a as ih => exact (h a).andThen fun b _ => ih.andThen fun bs _ => of_dumps_eq_nil rfl

variable {s : Substitution}

theorem substitute (h : ∀ r, (Rule.substitute s).Calls r → r.Accounted) (t : Text) (ctx : Context) :
    (s.substitute t ctx).Accounted := by
  have htexts (hits : List Hit) : (s.replacements ctx hits).Accounted := by
    rw [Substitution.replacements]
    split
    · exact of_dumps_eq_nil rfl
    · next compute hcompute => exact each (fun hit => h _ (.computed hcompute hit.groups ctx)) hits
  rw [Substitution.substitute]
  split
  · split
    · next p hp =>
      rw [Substitution.replaceIn]
      dsimp only
      split
      · exact (htexts _).panicking rfl
      · split
        · exact (htexts _).failingWith rfl
        · exact (htexts _).andThen fun texts _ => of_dumps_eq_nil rfl
    · exact of_dumps_eq_nil rfl
  · exact of_dumps_eq_nil rfl

theorem run {rule : Rule} (h : ∀ r, rule.Calls r → r.Accounted) (index : Nat) (source t : Text)
    (ctx : Context) : (rule.run index source t ctx).Accounted := by
  cases rule with
  | transform f =>
    exact (h _ (.transform f t ctx)).andThen fun out _ => of_dumps_eq_nil rfl
  | substitute s =>
    have hsub := substitute h t ctx
    cases hmandatory : s.mandatory with
    | true =>
      have hmatched : (s.assertMatched t ctx).Accounted := hsub.andThen fun new _ => by
        cases new <;> exact of_dumps_eq_nil rfl
      rw [Substitution.run_eq_of_mandatory index source hmandatory]
      exact (hmatched.placed s.name index source).andThen fun out _ => of_dumps_eq_nil rfl
    | false =>
      rw [Rule.run, hmandatory, if_neg Bool.false_ne_true]
      exact hsub.andThen fun new _ => by cases new <;> exact of_dumps_eq_nil rfl

/-- What holds of the functions of the rules holds of the run of the rules, step by step. -/
theorem runFrom {rules : List Rule} (h : ∀ rule ∈ rules, ∀ r, rule.Calls r → r.Accounted)
    (ctx : Context) (source : Text) (index : Nat) (t : Text) :
    (RuleSet.runFrom ctx source index rules t).Accounted := by
  induction rules generalizing index t with
  | nil => exact of_dumps_eq_nil rfl
  | cons rule rules ih =>
    exact (run (h rule List.mem_cons_self) index source t ctx).andThen fun out _ =>
      ih (fun rule hrule => h rule (List.mem_cons_of_mem _ hrule)) (index + 1) out

end Accounted

/-- A run that hands on the errors in it leaves at most one dump, by induction on how it is made up. -/
theorem HandsOn.accounted {own : RewriteError → Prop} (h : HandsOn own r) : r.Accounted := by
  induction h with
  | done a => exact .of_dumps_eq_nil rfl
  | fail e h => exact .of_dumps_eq_nil rfl
  | note event h => exact .of_dumps_eq_nil (List.filter_cons_of_neg (by simpa using h))
  | andThen hr hf ihr ihf => exact ihr.andThen ihf
  | late hr herror hmore hok ihr ihmore => exact ihr.late herror ihmore hok
  | substitute h t ctx ih => exact .substitute ih t ctx
  | apply h t ctx ih => exact .runFrom ih ctx t 0 t

/-! ## At least one -/

/-- Among the events is a dump that belongs to the error: it has its position and the text given to the
rule set. -/
def Tells (events : List Event) (e : RewriteError) : Prop :=
  ∃ rule index source, .refused rule index e source ∈ events ∧ e.index? = some index ∧
    e.source? = some source

theorem Tells.mono {events more : List Event} (h : Tells events e) (hsubset : events ⊆ more) :
    Tells more e := by
  obtain ⟨rule, index, source, hmem, hindex, hsource⟩ := h
  exact ⟨rule, index, source, hsubset hmem, hindex, hsource⟩

/-- An error with a position does not wait for one. -/
theorem Tells.isUnplaced {events : List Event} (h : Tells events e) : e.isUnplaced = false := by
  obtain ⟨rule, index, source, -, hindex, -⟩ := h
  cases e with
  | mismatch i rule pattern chunk source => cases hindex; rfl
  | invalidPattern rule pattern reason => cases hindex
  | execution rule pattern reason => cases hindex

/-- A rule set that gives an error its position leaves the dump of the error. -/
theorem tells_of_places {s : RuleSet} {t : Text} {ctx : Context} {i : Nat} {raised : RewriteError}
    (h : s.Places t ctx i raised) :
    (s.apply t ctx).result = .error (raised.placed i t) ∧
      Tells (s.apply t ctx).events (raised.placed i t) := by
  obtain ⟨sub, before, hrule, hmandatory, hbefore, hraised, hunplaced⟩ := h
  have hrun := Substitution.run_of_unplaced i t hmandatory hraised hunplaced
  obtain ⟨name, pattern, chunk, hplaced⟩ := RewriteError.exists_placed_eq hunplaced
  rw [RuleSet.apply_of_fails hrule hbefore (congrArg Run.result hrun), hrun, hplaced]
  exact ⟨rfl, sub.name, i, t, List.mem_append_right _ (List.mem_append_right _ List.mem_cons_self), rfl, rfl⟩

/-- A rule set leaves the dump of every error with which one of its functions fails, if the function leaves
it. -/
theorem tells_apply {s : RuleSet} {t before : Text} {ctx : Context} {i : Nat} {rule : Rule} {r : Run Text}
    (hrule : s.rules[i]? = some rule) (hbefore : ((s.take i).apply t ctx).result = .ok before)
    (h : rule.Reaches before ctx r) (hr : r.result = .error e) (htells : Tells r.events e) :
    (s.apply t ctx).result = .error e ∧ Tells (s.apply t ctx).events e := by
  obtain ⟨hresult, hevents⟩ := h.run hr htells.isUnplaced i t
  rw [RuleSet.apply_of_fails hrule hbefore hresult]
  exact ⟨rfl, htells.mono (List.subset_append_of_subset_right _ hevents)⟩

/-- No level forgets the dump of an error that was given its position, by induction on where that was. -/
theorem Attached.tells (h : r.Attached e) : r.result = .error e ∧ Tells r.events e := by
  induction h with
  | here h he => exact he ▸ tells_of_places h
  | apply hrule hbefore h hr ih => exact tells_apply hrule hbefore h ih.1 ih.2
  | substitute h hr ih =>
    obtain ⟨hresult, hevents⟩ := h.substitute ih.1
    exact ⟨hresult, ih.2.mono hevents⟩
  | first hr f ih =>
    rw [andThen_of_error ih.1]
    exact ⟨rfl, ih.2⟩
  | next hr hf ih =>
    rw [andThen_of_ok hr]
    exact ⟨ih.1, ih.2.mono (List.subset_append_right _ _)⟩
  | late hr more ih => exact ⟨rfl, ih.2.mono (List.subset_append_left _ _)⟩

/-! ## Where a position comes from -/

/-- An error with a position has it from a function that raised it so, or was given it in the course of the
run. -/
theorem HandsOn.own_or_attached {own : RewriteError → Prop} (h : HandsOn own r)
    (herror : r.result = .error e) (hindex : e.index?.isSome) : own e ∨ r.Attached e := by
  induction h with
  | done a => cases herror
  | fail e' h => cases herror; exact .inl (h hindex)
  | note event h => cases herror
  | @andThen α β r f hr hf ihr ihf =>
    cases hresult : r.result with
    | error e' =>
      rw [andThen_of_error hresult] at herror
      cases herror
      exact (ihr hresult).imp_right (.first · f)
    | ok a =>
      rw [andThen_of_ok hresult] at herror
      exact (ihf a hresult herror).imp_right (.next hresult)
  | late hr herror' hmore hok ihr ihmore =>
    cases herror
    exact (ihr herror').imp_right (.late · _)
  | substitute h t ctx ih =>
    obtain ⟨r, hreaches, hr⟩ := Substitution.exists_reaches_of_index herror hindex
    exact (ih r (Rule.Reaches.calls hreaches) hr).imp_right (.substitute hreaches)
  | @apply s h t ctx ih =>
    obtain ⟨i, rule, before, hrule, hbefore, hfails⟩ := RuleSet.exists_of_apply_eq_error herror
    rcases rule.exists_reaches_of_index hfails hindex with
      ⟨r, hreaches, hr⟩ | ⟨sub, raised, rfl, hmandatory, hraised, hunplaced, he⟩
    · exact (ih rule (List.mem_of_getElem? hrule) r hreaches.calls hr).imp_right
        (.apply hrule hbefore hreaches)
    · exact .inr (.here ⟨sub, before, hrule, hmandatory, hbefore, hraised, hunplaced⟩ he)

end Run

namespace RuleSet

variable {own : RewriteError → Prop}

/-- The functions that the rules are made with hand on the errors of the rewrites that they carry out, and
the errors with a position that they raise themselves are `own`. -/
def HandsOn (own : RewriteError → Prop) (s : RuleSet) : Prop :=
  ∀ rule ∈ s.rules, ∀ r, rule.Calls r → Run.HandsOn own r

/-- A rewrite that gives a text leaves no dump, and one that fails at most one.  An error with a position has
it from a function that raised it so, or was given it by a rule set, at whatever depth.  In the second
case there is exactly one dump: it has the position of the error, and its wording is that of the error,
followed by the text that the rule set with this position was given. -/
theorem dumps_apply {s : RuleSet} (hs : s.HandsOn own) (t : Text) (ctx : Context) :
    let r := s.apply t ctx
    (∀ out, r.result = .ok out → r.dumps = []) ∧
    (∀ e, r.result = .error e → r.dumps.length ≤ 1 ∧ (e.index?.isSome → own e ∨ r.Attached e)) ∧
    (∀ e, r.Attached e → r.result = .error e ∧ ∃ dump index source, r.dumps = [dump] ∧
      e.index? = some index ∧ dump.fields.lookup "rule_index" = some (.number index) ∧
      e.source? = some source ∧ dump.message = e.message ++ ":\n" ++ String.ofList source) := by
  intro r
  have hrun : Run.HandsOn own r := .apply hs t ctx
  have haccounted := hrun.accounted
  refine ⟨fun out hout => haccounted.dumps_of_ok hout, fun e he => ⟨haccounted.atMost,
    hrun.own_or_attached he⟩, fun e hattached => ?_⟩
  obtain ⟨hresult, rule, index, source, hmem, hindex, hsource⟩ := hattached.tells
  obtain ⟨dump, hdump⟩ := List.length_eq_one_iff.mp
    (Nat.le_antisymm haccounted.atMost (List.length_pos_of_mem (Run.mem_dumps.mpr ⟨hmem, rfl⟩)))
  have heq : Event.refused rule index e source = dump := by
    have hin := Run.mem_dumps.mpr ⟨hmem, rfl⟩
    rwa [hdump, List.mem_singleton] at hin
  subst heq
  exact ⟨hresult, _, index, source, hdump, hindex, rfl, hsource, rfl⟩

/-! ## The rule sets for chunks -/

/-- A rule with a template is made without a function. -/
theorem not_calls_of_template {s : Substitution} {template : Text} {r : Run Text}
    (h : s.replacement = .template template) : ¬(Rule.substitute s).Calls r := by
  intro hcalls
  cases hcalls with
  | computed hcompute => cases h.symm.trans hcompute

theorem handsOn_guardRule {r : Run Text} (h : ObjectLiteral.guardRule.Calls r) : Run.HandsOn own r := by
  cases h with
  | computed hcompute g ctx =>
    cases hcompute
    exact .done _

theorem handsOn_objectLiteral : ObjectLiteral.rules.HandsOn own := by
  intro rule hrule r hcalls
  obtain rfl := List.mem_singleton.mp hrule
  exact handsOn_guardRule hcalls

theorem handsOn_bootstrap : Bootstrap.rules.HandsOn own := by
  intro rule hrule r hcalls
  obtain rfl | hliteral := List.mem_cons.mp hrule
  · exact handsOn_guardRule hcalls
  · simp only [List.mem_cons, List.not_mem_nil, or_false] at hliteral
    obtain rfl | rfl | rfl | rfl | rfl := hliteral <;> exact absurd hcalls (not_calls_of_template rfl)

theorem handsOn_guardFor (layout : Layout) (span : Text) :
    Run.HandsOn own (Registry.guardFor layout span) := by
  cases layout with
  | concatenated => exact .done none
  | modular =>
    have hnames : Run.HandsOn own (Registry.requireProperties span) := by
      rw [Registry.requireProperties, Registry.propertiesBy]
      split
      · exact .done _
      · exact .fail _ nofun
    rw [Registry.guardFor, Run.bind_eq]
    exact hnames.andThen fun names _ => .done _

/-- The registry's span is rewritten with other rule sets, and their errors are handed on. -/
theorem handsOn_harden (g : Groups) (ctx : Context) : Run.HandsOn own (Registry.harden g ctx) := by
  simp only [Registry.harden, Run.bind_eq]
  refine (handsOn_guardFor _ _).andThen fun guard _ => .andThen (.note _ nofun) fun _ _ =>
    .andThen ?_ fun span _ => .done _
  split
  · exact .apply handsOn_bootstrap _ _
  · exact .apply handsOn_objectLiteral _ _

/-- The rules for the main chunk hand on the errors of the rule sets that run inside them, and raise no
error with a position themselves. -/
theorem handsOn_mainChunk : MainChunk.rules.HandsOn own := by
  intro rule hrule r hcalls
  rw [MainChunk.rules] at hrule
  simp only [List.mem_cons, List.not_mem_nil, or_false] at hrule
  obtain rfl | rfl | rfl := hrule
  · exact absurd hcalls (not_calls_of_template rfl)
  · cases hcalls with
    | computed hcompute g ctx =>
      cases hcompute
      exact handsOn_harden g ctx
  · cases hcalls with
    | computed hcompute g ctx =>
      cases hcompute
      exact .done _

section Sample

/-- Rewrites what is found with another rule set. -/
def nestingSubstitution : Substitution where
  name := "found"
  target := .exact "xx".toList
  replacement := .computed fun g ctx => demanding.apply g.whole ctx
  scope := .first

/-- A set with a rule that runs another set. -/
def nesting : RuleSet where
  name := "nesting"
  rules := [.substitute nestingSubstitution]

theorem handsOn_demanding : demanding.HandsOn own := by
  intro rule hrule r hcalls
  obtain rfl := List.mem_singleton.mp hrule
  cases hcalls with
  | computed h => cases h

theorem handsOn_nesting : nesting.HandsOn own := by
  intro rule hrule r hcalls
  obtain rfl := List.mem_singleton.mp hrule
  cases hcalls with
  | computed h g ctx =>
    cases h
    exact .apply handsOn_demanding g.whole ctx

/-- The refusal that the inner set gives a position. -/
def innerRefusal : RewriteError :=
  .mismatch (some 0) "absent" "zzz".toList "bootstrap" "xx".toList

/-- The inner set gives the position, in the only function that the outer one calls. -/
theorem attached_nesting : (nesting.apply "xx".toList {}).Attached innerRefusal := by
  have hscan : nestingSubstitution.scan? "xx".toList = some ⟨[⟨[], ⟨[some "xx".toList], []⟩⟩], [], false⟩ := by
    rfl
  have hreaches : (Rule.substitute nestingSubstitution).Reaches "xx".toList {}
      (demanding.apply "xx".toList {}) :=
    ⟨_, _, [], _, [], rfl, hscan, rfl, rfl, rfl, nofun, rfl⟩
  have hinner : (demanding.apply "xx".toList {}).Attached innerRefusal := .here places_demanding rfl
  exact .apply (i := 0) rfl rfl hreaches hinner

/-- The inner set is refused, and the outer one does not tell of it again. -/
theorem dumps_apply_nesting :
    nesting.HandsOn (fun _ => False) ∧ (nesting.apply "xx".toList {}).Attached innerRefusal ∧
    (nesting.apply "xx".toList {}).result = .error innerRefusal ∧
    ∃ dump, (nesting.apply "xx".toList {}).dumps = [dump] ∧
      dump.fields.lookup "rule_index" = some (.number 0) ∧
      dump.message = "[ProtectBootstrap] \"zzz\" not found in bootstrap:\nxx" := by
  have hset : nesting.HandsOn fun _ => False := handsOn_nesting
  obtain ⟨-, -, hone⟩ := dumps_apply hset "xx".toList {}
  obtain ⟨hresult, dump, index, source, hdumps, hindex, hfield, hsource, hmessage⟩ :=
    hone innerRefusal attached_nesting
  cases hindex
  cases hsource
  exact ⟨hset, attached_nesting, hresult, dump, hdumps, hfield, hmessage⟩

end Sample

end RuleSet

end BundleHardening
