import BundleHardening.Proofs.Pattern.Parts
import BundleHardening.Proofs.Rule
import Mathlib.Tactic.FinCases

/-!
# Patterns of exact text

Escaped text is read as the pattern that spells it, if that takes no more room than a pattern may.
Substituting for exact text is therefore replacing its occurrences one after another
(`Substitution.acts_literal`).
-/

set_option autoImplicit false

namespace BundleHardening

namespace Regular

/-- A letter of a spelled text, as a factor that has been read. -/
def letterFactor (c : Char) : Factor :=
  .part ⟨set (.single c), 0⟩

/-- One escaped character is read as a letter. -/
theorem readAlternatives_letter (fuel : Nat) (factors : List Factor) (c : Char) (t : Text) :
    readAlternatives (fuel + 1) [] factors { rest := Text.escape [c] ++ t } =
      readAlternatives fuel [] (letterFactor c :: factors) { rest := t } := by
  by_cases hmeta : Escape.isMeta c = true
  · have hread : Escape.read {} (c :: t) = some (.literal c, t) := by
      simp only [Escape.isMeta, List.contains_iff_mem] at hmeta
      fin_cases hmeta <;> rfl
    have hescape : Text.escape [c] ++ t = '\\' :: c :: t := by simp [Text.escape, hmeta]
    rw [hescape]
    simp [readAlternatives, Reading.skip, Reading.at_, Flags.skip, readAtom, hread, letterFactor,
      ofEscape, Flags.literal]
  · have hescape : Text.escape [c] ++ t = c :: t := by simp [Text.escape, hmeta]
    rw [hescape]
    simp only [Escape.isMeta, List.contains_iff_mem, List.mem_cons, not_or] at hmeta
    simp [readAlternatives, Reading.skip, Reading.at_, Flags.skip, readAtom, letterFactor,
      Flags.literal, hmeta]

theorem readAlternatives_escape (t : Text) : ∀ (fuel : Nat) (factors : List Factor),
    t.length < fuel → readAlternatives fuel [] factors { rest := t.escape } =
      some (ofChoices [ofFactors ((t.map letterFactor).reverse ++ factors)], { rest := [] }) := by
  induction t with
  | nil =>
    intro fuel factors hfuel
    obtain ⟨fuel, rfl⟩ := Nat.exists_eq_add_of_lt hfuel
    rfl
  | cons c t ih =>
    intro fuel factors hfuel
    cases fuel with
    | zero => cases hfuel
    | succ fuel =>
      have hescape : Text.escape (c :: t) = Text.escape [c] ++ Text.escape t := by
        simp [Text.escape]
      rw [hescape, readAlternatives_letter, ih fuel _ (Nat.lt_of_succ_lt_succ hfuel)]
      simp

theorem length_le_length_escape (t : Text) : t.length ≤ t.escape.length := by
  induction t with
  | nil => exact Nat.le_refl 0
  | cons c t ih =>
    rw [Text.escape, List.flatMap_cons, List.length_append, List.length_cons]
    have hpos : 0 < (if Escape.isMeta c then ['\\', c] else [c]).length := by split <;> simp
    have hle : t.length ≤ (Text.escape t).length := ih
    rw [Text.escape] at hle
    omega

theorem pattern_ofFactors_letters (t : Text) :
    (ofFactors (t.map letterFactor).reverse).pattern = spelled t := by
  simp only [ofFactors, List.reverse_reverse, List.filterMap_map, spelled, letters]
  congr 1
  induction t with
  | nil => rfl
  | cons c t ih => simpa [letterFactor, Factor.pattern?] using ih

theorem depth_ofFactors_letters (t : Text) : (ofFactors (t.map letterFactor).reverse).depth ≤ 1 := by
  have hzero : (t.map letterFactor).reverse.map Factor.depth = List.replicate t.length 0 := by
    rw [List.eq_replicate_iff]
    simp +contextual [letterFactor, Factor.depth]
  have hdeepest : (List.replicate t.length 0).foldl max 0 = 0 := by
    induction t.length with
    | zero => rfl
    | succ n ih => exact ih
  simp only [ofFactors, hzero, depthOf, hdeepest]
  split <;> decide

/-- A text that is read to its end is a pattern, if it keeps to the limits. -/
theorem ofText?_of_read {t : Text} {whole : Nested} {r : Reading}
    (hread : readAlternatives (2 * t.length + 2) [] [] { rest := t } = some (whole, r))
    (hrest : r.rest = []) (hdepth : whole.depth ≤ maxDepth) (hfits : whole.pattern.fits = true) :
    ofText? t = some whole.pattern := by
  rw [ofText?, hread]
  simp [hrest, hdepth, hfits]

/-- Escaped text is read as the pattern that spells it. -/
theorem ofText?_escape {t : Text} (hfits : (spelled t).fits = true) :
    ofText? t.escape = some (spelled t) := by
  have hlen := length_le_length_escape t
  have hread := readAlternatives_escape t (2 * t.escape.length + 2) [] (by omega)
  have hdepth := depth_ofFactors_letters t
  have hpattern := pattern_ofFactors_letters t
  rw [List.append_nil] at hread
  have hchoices : ofChoices [ofFactors (t.map letterFactor).reverse] =
      ⟨spelled t, (ofFactors (t.map letterFactor).reverse).depth⟩ := by
    rw [← hpattern]
    simp [ofChoices, alternation, depthOf]
  rw [hchoices] at hread
  exact ofText?_of_read hread rfl (Nat.le_trans hdepth (by decide)) hfits

end Regular

/-- The form of exact text; the groups behind the whole match are the same in every match. -/
def Form.exact (needle : Text) (hne : needle ≠ []) (groups : List (Option Text)) : Form where
  read t := (Text.after? needle t).map fun rest => ⟨some needle :: groups, rest⟩
  splits h := by
    obtain ⟨rest, hrest, rfl⟩ := Option.map_eq_some_iff.mp h
    exact Text.after?_eq_some_iff.mp hrest
  advances h := by
    obtain ⟨rest, hrest, rfl⟩ := Option.map_eq_some_iff.mp h
    exact hne

variable {needle : Text} {hne : needle ≠ []} {groups : List (Option Text)} {r : Regular}

/-- Rewriting by the form of exact text replaces the occurrences one after another. -/
theorem Form.rewrite_exact {new : Groups → Text} {out : Text}
    (hnew : ∀ rest, new ⟨some needle :: groups, rest⟩ = out) (t : Text) :
    (Form.exact needle hne groups).rewrite new t = Text.replaceAll needle out t := by
  induction t using Text.replaceAll_induction hne with
  | nil => rw [Form.rewrite_nil, Text.replaceAll_nil hne]
  | hit rest ih =>
    have hread : (Form.exact needle hne groups).read (needle ++ rest) =
        some ⟨some needle :: groups, rest⟩ := by
      simp only [Form.exact, Text.after?_append, Option.map_some]
    rw [Form.rewrite_of_read _ _ hread, hnew, ih, Text.replaceAll_append hne]
  | keep c t hpre ih =>
    have hread : (Form.exact needle hne groups).read (c :: t) = none := by
      simp only [Form.exact, Text.after?_eq_none_iff.mpr hpre, Option.map_none]
    rw [Form.rewrite_cons _ _ hread, ih, Text.replaceAll_cons hne _ hpre]

theorem Regular.advancing_spelled (t : Text) : (spelled t).advancing = true := by
  induction t with
  | nil => rfl
  | cons c t ih =>
    cases t with
    | nil => rfl
    | cons d t => exact ih

theorem Regular.lastGroup_spelled (t : Text) : (spelled t).lastGroup = 0 := by
  induction t with
  | nil => rfl
  | cons c t ih =>
    cases t with
    | nil => rfl
    | cons d t => simpa [spelled, letters, sequence, lastGroup] using ih

/-- The pattern that spells a text matches the text. -/
theorem Regular.reads_spelled (needle : Text) (hne : needle ≠ []) :
    (spelled needle).Reads (.exact needle hne []) where
  advancing := advancing_spelled needle
  misses here h := by
    have hafter := Option.map_eq_none_iff.mp h
    simp only [tries, Ending.noting, tries_spelled, hafter]
    rfl
  takes here g h := by
    obtain ⟨rest, hrest, rfl⟩ := Option.map_eq_some_iff.mp h
    refine ⟨[(1, here.ahead needle.length), (0, here)], [], ?_, ?_, ?_⟩
    · simp only [tries, Ending.noting, tries_spelled, hrest]
      rfl
    · rw [lastGroup_spelled]
      rfl
    · have hsplit := Text.after?_eq_some_iff.mp hrest
      have hwhole : (⟨[some needle], rest⟩ : Groups).whole = needle := rfl
      simp [Scan.groupsOf, Cursor.upTo_self_ahead, hwhole, hsplit]

/-- A pattern that spells a text in two parts, the first one as a group, matches the text. -/
theorem Regular.reads_grouped (front behind : Text) (hne : front ++ behind ≠ []) :
    (seq (.group 1 (spelled front)) (spelled behind)).Reads
      (.exact (front ++ behind) hne [some front]) := by
  have htries (here : Cursor) :
      (group 0 (seq (.group 1 (spelled front)) (spelled behind))).tries Ending.final here [] =
        (Text.after? (front ++ behind) here.rest).map fun _ =>
          [(1, here.ahead (front ++ behind).length), (3, here.ahead front.length), (2, here),
            (0, here)] := by
    simp only [tries, Ending.noting, tries_spelled, Text.after?_append_text]
    cases hfront : Text.after? front here.rest with
    | none => rfl
    | some t =>
      have hrest : (here.ahead front.length).rest = t := by
        rw [Cursor.rest_ahead, Text.after?_eq_some_iff.mp hfront, List.drop_left]
      rw [hrest, Option.bind_some]
      cases Text.after? behind t <;> simp [Ending.final]
  constructor
  · simp [advancing, advancing_spelled]
  · intro here h
    rw [htries, Option.map_eq_none_iff.mp h]
    rfl
  · intro here g h
    obtain ⟨rest, hrest, rfl⟩ := Option.map_eq_some_iff.mp h
    have hsplit := Text.after?_eq_some_iff.mp hrest
    have hwhole : (⟨[some (front ++ behind), some front], rest⟩ : Groups).whole = front ++ behind := rfl
    refine ⟨[(1, here.ahead (front ++ behind).length), (3, here.ahead front.length), (2, here),
      (0, here)], [some (here, here.ahead front.length)], ?_, ?_, ?_⟩
    · rw [htries, hrest]
      rfl
    · simp only [lastGroup, lastGroup_spelled]
      rfl
    · rw [hwhole, Scan.groupsOf, Cursor.upTo_self_ahead, Cursor.rest_ahead, hsplit, List.take_left,
        List.drop_left]
      simp [Cursor.upTo_self_ahead, hsplit]

namespace Template

/-- A template reads only the parts of a match. -/
theorem expand_congr {g g' : Groups} (h : g.groups = g'.groups) (template : Text) :
    expand g template = expand g' template := by
  have hget : g.get = g'.get := by
    funext index
    simp only [Groups.get, Groups.get?, h]
  have hnames : names g = names g' := by
    funext n
    rw [names, names, Groups.size, Groups.size, h]
  have htoken : token g = token g' := by
    funext t
    unfold token
    simp only [hget, hnames, Groups.whole]
  have hexpand (skip : Nat) : expandFrom g skip template = expandFrom g' skip template := by
    induction template generalizing skip with
    | nil => cases skip <;> rfl
    | cons c t ih => cases skip <;> simp only [expandFrom, htoken, ih]
  exact hexpand 0

/-- A template without a dollar sign stands for itself. -/
theorem expand_of_not_mem (g : Groups) {template : Text} (h : '$' ∉ template) :
    expand g template = template := by
  show expandFrom g 0 template = template
  induction template with
  | nil => rfl
  | cons c t ih =>
    obtain ⟨hc, ht⟩ := not_or.mp (mt List.mem_cons.mpr h)
    rw [expandFrom, if_neg (Ne.symm hc), ih ht]

end Template

/-- Escaped text is a pattern that finds the text. -/
theorem Pattern.literal_finds (needle : Text) (hne : needle ≠ [])
    (hfits : (Regular.spelled needle).fits = true) : ∃ p, literal needle = .ok p ∧
      p.Finds (.exact needle hne []) := by
  refine ⟨_, ?_, finds_ofRegular (Regular.reads_spelled needle hne) needle.escape⟩
  rw [literal, linear?, Regular.ofText?_escape hfits]

namespace Substitution

/-- Substituting a template for exact text replaces the occurrences one after another by the template,
expanded with the text as its only group. -/
theorem acts_literal (name : String) (needle template : Text) (hne : needle ≠ [])
    (hfits : (Regular.spelled needle).fits = true) :
    (literal name needle template).Acts
      (Text.replaceAll needle (Template.expand ⟨[some needle], []⟩ template)) := by
  obtain ⟨p, hp, hfinds⟩ := Pattern.literal_finds needle hne hfits
  have hrewrite : (Form.exact needle hne []).rewrite (Template.expand · template) =
      Text.replaceAll needle (Template.expand ⟨[some needle], []⟩ template) :=
    funext (Form.rewrite_exact fun rest => Template.expand_congr (by rfl) template)
  rw [← hrewrite]
  refine acts_of_finds hp hfinds rfl (fun ctx hits => rfl) fun t hmay => ?_
  rw [hrewrite]
  refine Text.replaceAll_eq_self hne _ fun hin => ?_
  have hholds : Text.holds needle t = true := Text.holds_iff.mpr hin
  rw [show Text.holds needle t = false from hmay] at hholds
  cases hholds

end Substitution

/-- A mandatory substitution of exact text, with a template that is put in as it stands. -/
def Step.literal (name : String) (needle new : Text) (hne : needle ≠ [])
    (hfits : (Regular.spelled needle).fits = true) (hplain : '$' ∉ new) : Step where
  substitution := .literal name needle new
  act := Text.replaceAll needle new
  mandatory := rfl
  acts := by
    have hacts := Substitution.acts_literal name needle new hne hfits
    rw [Template.expand_of_not_mem _ hplain] at hacts
    exact hacts

end BundleHardening
