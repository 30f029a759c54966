import BundleHardening.Proofs.Pattern.SharedClass

/-!
# Repetitions and openings that both dialects read alike

Behind a part both dialects read the same repetition signs, and behind an opening parenthesis the same mode
switches and names, if what follows is clear: a count of the one need not be a count of the other, and the
sign that makes a repetition possessive, or a parenthesis a look-around, is one of the list.
-/

set_option autoImplicit false

namespace BundleHardening

open Pattern (Clear passCount? passHead? passSwitch? passName?)

/-! ## Mode switches -/

namespace Flags

variable {f f' g : Flags} {c : Char} {on : Bool} {seen letters : List Char} {t u : Text}

/-- The letters of the modes are the same whatever modes are in force. -/
theorem switch?_alike (h : f.switch? c on = some f') (g : Flags) : ∃ g', g.switch? c on = some g' ∧
    (g.unicode = f.unicode → g'.unicode = f'.unicode) ∧ (c ≠ 'x' → g'.verbose = g.verbose) := by
  unfold switch? at h ⊢
  split at h
  case h_8 => cases h
  all_goals
    cases h
    exact ⟨_, rfl, by simp, by simp⟩

theorem mem_letters_of_mem (h : readSwitch seen f t = some (f', letters, u)) (hc : c ∈ seen) :
    c ∈ letters := by
  induction t generalizing seen f with
  | nil => cases h
  | cons d t ih =>
    obtain ⟨-, -, -, rfl, -⟩ | ⟨-, -, -, _, -, hmore⟩ := Pattern.readSwitch_cons h
    · exact hc
    · exact ih hmore (List.mem_cons_of_mem _ hc)

/-- A switch is read alike in all modes, if it does not touch blanks and comments. -/
theorem readSwitch_alike (h : readSwitch seen f t = some (f', letters, u)) (hx : 'x' ∉ letters)
    (hunicode : g.unicode = f.unicode) : ∃ g', readSwitch seen g t = some (g', letters, u) ∧
      g'.unicode = f'.unicode ∧ g'.verbose = g.verbose := by
  induction t generalizing seen f g with
  | nil => cases h
  | cons d t ih =>
    obtain ⟨hend, hminus, rfl, rfl, rfl⟩ | ⟨hcolon, hclose, hnew, f₁, hswitch, hmore⟩ :=
      Pattern.readSwitch_cons h
    · exact ⟨g, by simp [readSwitch, hend, hminus], hunicode, rfl⟩
    obtain ⟨rfl, rfl⟩ | ⟨hminus, hswitch⟩ := hswitch
    · obtain ⟨g', hread, hflags⟩ := ih hmore hunicode
      exact ⟨g', by simp [readSwitch, hnew, hread], hflags⟩
    · obtain ⟨g₁, hswitch', hunicode', hverbose⟩ := switch?_alike hswitch g
      have hd : d ≠ 'x' := by
        rintro rfl
        exact hx (mem_letters_of_mem hmore List.mem_cons_self)
      obtain ⟨g', hread, hflags, hconcise⟩ := ih hmore (hunicode' hunicode)
      refine ⟨g', ?_, hflags, hconcise.trans (hverbose hd)⟩
      rw [readSwitch, if_neg (by simp [hcolon, hclose]), if_neg (by simpa using hnew),
        if_neg (by simpa using hminus), hswitch']
      exact hread

end Flags

namespace Extended

variable {r r' : Reading} {f f' : Flags} {seen all : List Char} {c : Char} {rest : Text}

/-- The letters that the linear dialect reads lead the extended one to the same place. -/
theorem readSwitch_shared {fuel letters : Nat} {negated : Bool} {switch : Switch}
    (hread : readSwitch fuel letters negated r = some switch)
    (hverbose : r.flags.verbose = false)
    (hregular : Flags.readSwitch seen f r.rest = some (f', all, c :: rest)) (hx : 'x' ∉ all)
    (hnegated : seen.contains '-' = negated) (hletters : seen.length = letters) :
    ∃ after, (switch = .after after ∧ c = ')' ∧ all ≠ [] ∨ switch = .inside after ∧ c = ':') ∧
      after.rest = rest ∧ after.flags.verbose = false := by
  induction fuel generalizing letters negated r seen f with
  | zero => cases hread
  | succ fuel ih =>
    have hcomment : ¬ ['(', '?', '#'] <+: r.rest := by
      rintro ⟨u, hu⟩
      rw [← hu] at hregular
      obtain ⟨hend, -⟩ | ⟨-, -, -, _, hswitch, -⟩ := Pattern.readSwitch_cons hregular
      · simp at hend
      · simp [Flags.switch?] at hswitch
    simp only [readSwitch, skip?_eq_some hverbose hcomment, Option.bind_eq_bind, Option.bind_some]
      at hread
    split at hread
    · cases hread
    · next t hrest =>
      rw [hrest] at hregular
      obtain ⟨rfl, heq⟩ := Pattern.readSwitch_end hregular (.inr rfl)
      cases heq
      split at hread
      · cases hread
      · next hsome =>
        cases hread
        refine ⟨_, .inl ⟨rfl, rfl, ?_⟩, rfl, hverbose⟩
        rintro rfl
        exact hsome (by simp [← hletters])
    · next t hrest =>
      rw [hrest] at hregular
      obtain ⟨rfl, heq⟩ := Pattern.readSwitch_end hregular (.inl rfl)
      cases heq
      split at hread
      · cases hread
      · cases hread
        exact ⟨_, .inr ⟨rfl, rfl⟩, rfl, hverbose⟩
    · next t hrest =>
      rw [hrest] at hregular
      obtain ⟨f₁, hmore⟩ := Pattern.readSwitch_letter hregular (by decide) (by decide)
      split at hread
      · cases hread
      · exact ih (r := r.at_ t) hread hverbose hmore (by simp) (by simp [hletters])
    · next t hrest =>
      rw [hrest] at hregular
      obtain ⟨f₁, hmore⟩ := Pattern.readSwitch_letter hregular (by decide) (by decide)
      split at hread
      · cases hread
      · exact ih (r := r.at_ t) hread hverbose hmore (by simpa using hnegated) (by simp [hletters])
    · next d t hclose hcolon hminus hu hrest =>
      rw [hrest] at hregular
      obtain ⟨f₁, hmore⟩ := Pattern.readSwitch_letter hregular hcolon hclose
      split at hread
      · cases hread
      · obtain ⟨flags, hswitch, hread⟩ := Option.bind_eq_some_iff.mp hread
        have hd : d ≠ 'x' := by
          rintro rfl
          exact hx (Flags.mem_letters_of_mem hmore List.mem_cons_self)
        obtain ⟨flags', hswitch', -, hconcise⟩ := Flags.switch?_alike hswitch r.flags
        cases hswitch.symm.trans hswitch'
        exact ih hread ((hconcise hd).trans hverbose) hmore
          (by simpa [Ne.symm (Ne.intro hminus)] using hnegated) (by simp [hletters])

/-! ## Counts and repetition signs -/

theorem skip?_bind_alike {α : Type} (r r' : Reading) (h : r.flags.verbose = r'.flags.verbose)
    (hrest : r.rest = r'.rest) {next next' : Reading → Option α}
    (hnext : ∀ t, next (r.at_ t) = next' (r'.at_ t)) : r.skip?.bind next = r'.skip?.bind next' := by
  rw [Reading.skip?, Reading.skip?, h, hrest]
  cases Reading.dropIgnored r'.flags.verbose (r'.rest.length + 1) r'.rest with
  | none => rfl
  | some t => exact hnext t

/-- Reads the second bound, behind the first one. -/
def readMost (least : Nat) (r : Reading) : Option ((Nat × Option Nat) × Text) := do
  let r ← r.skip?
  match r.rest with
  | '\x7d' :: t => pure ((least, some least), t)
  | ',' :: t =>
    let r ← (r.at_ t).skip?
    let (most, r) := match readDecimal r.rest with
      | some (n, t) => (some n, r.at_ t)
      | none => (none, r)
    let r ← r.skip?
    match r.rest with
    | '\x7d' :: t => pure ((least, most), t)
    | _ => none
  | _ => none

theorem readMost_alike (least : Nat) (r r' : Reading) (h : r.flags.verbose = r'.flags.verbose)
    (hrest : r.rest = r'.rest) : readMost least r = readMost least r' := by
  refine skip?_bind_alike r r' h hrest fun t => ?_
  dsimp only [Reading.at_]
  split
  · rfl
  · next u =>
    refine skip?_bind_alike (r.at_ u) (r'.at_ u) h rfl fun t => ?_
    dsimp only [Reading.at_]
    cases readDecimal t with
    | none => exact skip?_bind_alike (r.at_ t) (r'.at_ t) h rfl fun t => rfl
    | some n => exact skip?_bind_alike (r.at_ n.2) (r'.at_ n.2) h rfl fun t => rfl
  · rfl

theorem readBounds_alike (r r' : Reading) (h : r.flags.verbose = r'.flags.verbose)
    (hrest : r.rest = r'.rest) : readBounds r = readBounds r' := by
  refine skip?_bind_alike r r' h hrest fun t => ?_
  dsimp only [Reading.at_]
  split
  · next u => exact readMost_alike 0 (r.at_ (',' :: u)) (r'.at_ (',' :: u)) h rfl
  · cases readDecimal t with
    | none => rfl
    | some n => exact readMost_alike n.1 (r.at_ n.2) (r'.at_ n.2) h rfl

end Extended

namespace Pattern

variable {names : List Text} {repeatable : Bool} {t u : Text}

/-- The text begins with a repetition sign, and `rest` follows it. -/
def Repeats (t rest : Text) : Prop :=
  (∃ c, c ∈ ['?', '*', '+'] ∧ t = c :: rest) ∨ ∃ v, t = '\x7b' :: v ∧ passCount? v = some rest

/-- Passes the sign that makes a repetition lazy. -/
def passLazy : Text → Text
  | '?' :: t => t
  | t => t

theorem Repeats.length_lt (h : Repeats t u) : u.length < t.length := by
  obtain ⟨c, -, rfl⟩ | ⟨v, rfl, hcount⟩ := h
  · exact Nat.lt_succ_self _
  · exact Nat.lt_succ_of_le ((List.suffix_cons _ _).trans (of_passCount? hcount).2.2).length_le

theorem passLazy_suffix (t : Text) : passLazy t <:+ t := by
  unfold passLazy
  split
  · exact List.suffix_cons _ _
  · exact List.suffix_refl _

theorem Clear.sign {c : Char} (h : Clear names (.outside repeatable) (c :: t))
    (hc : c ∈ ['|', '?', '*', '+']) : Clear names (.outside false) t := by
  have hchar : c ∉ ['\\', '[', '(', '\x7b'] := by
    simp only [List.mem_cons, List.not_mem_nil, or_false] at hc
    rcases hc with rfl | rfl | rfl | rfl <;> decide
  have hsign : ['|', '*', '+', '?'].contains c = true := by
    simp only [List.mem_cons, List.not_mem_nil, or_false] at hc
    rcases hc with rfl | rfl | rfl | rfl <;> decide
  have hrest := h.char hchar
  rwa [hsign] at hrest

theorem Clear.lazy (h : Clear names (.outside false) t) : Clear names (.outside false) (passLazy t) := by
  unfold passLazy
  split
  · exact h.sign (by decide)
  · exact h

/-- What follows a repetition sign is clear. -/
theorem Clear.repeats (h : Clear names (.outside repeatable) t) (hrepeats : Repeats t u) :
    Clear names (.outside false) u := by
  obtain ⟨c, hc, rfl⟩ | ⟨v, rfl, hcount⟩ := hrepeats
  · exact h.sign (List.mem_cons_of_mem _ hc)
  · obtain ⟨-, _, hcount', hrest⟩ := h.brace
    cases hcount.symm.trans hcount'
    exact hrest

/-- The sign of a repetition is no sign of the list with the plus sign that follows. -/
theorem Clear.not_possessive (h : Clear names (.outside repeatable) t) (hrepeats : Repeats t u) :
    ∀ v, passLazy u ≠ '+' :: v := by
  have hplus : ∀ v, u ≠ '+' :: v := by
    rintro v rfl
    obtain ⟨c, hc, rfl⟩ | ⟨w, rfl, hcount⟩ := hrepeats
    · simp only [List.mem_cons, List.not_mem_nil, or_false] at hc
      rcases hc with rfl | rfl | rfl
      · exact h.not_sign "?+" (by decide) ⟨v, rfl⟩
      · exact h.not_sign "*+" (by decide) ⟨v, rfl⟩
      · exact h.not_sign "++" (by decide) ⟨v, rfl⟩
    · have hsuffix := (of_passCount? hcount).2.2.trans (List.suffix_cons '\x7b' w)
      exact not_prefix_of_unsigned (needsBacktracking_of_suffix hsuffix h.unsigned) "\x7d+"
        (by decide) ⟨v, rfl⟩
  intro v hlazy
  unfold passLazy at hlazy
  split at hlazy
  · subst hlazy
    exact (h.repeats hrepeats).not_sign "?+" (by decide) ⟨v, rfl⟩
  · exact hplus v hlazy

end Pattern

namespace Extended

variable {names : List Text} {repeatable : Bool} {r after : Reading} {e e' : Extended} {rest : Text}

/-- A repetition sign is read by the extended dialect if there is something to repeat. -/
theorem readRepetition_shared (hverbose : r.flags.verbose = false)
    (hclear : Clear names (.outside repeatable) r.rest)
    (h : readRepetition r e = some (e', after)) :
    (∀ rest, ¬ Pattern.Repeats r.rest rest) ∧ after = r ∨
      ∃ rest, Pattern.Repeats r.rest rest ∧ isRepeatable e = true ∧
        after = r.at_ (Pattern.passLazy rest) := by
  unfold readRepetition at h
  dsimp only at h
  split at h
  · next hnone =>
    cases h
    refine .inl ⟨?_, rfl⟩
    rintro rest (⟨c, hc, hrest⟩ | ⟨v, hrest, hcount⟩)
    · simp only [List.mem_cons, List.not_mem_nil, or_false] at hc
      rcases hc with rfl | rfl | rfl <;> simp [hrest] at hnone
    · obtain ⟨-, ⟨bounds, hbounds⟩, -⟩ := Pattern.of_passCount? hcount
      have hread := readBounds_alike (r.at_ v) { rest := v, size := 0 } hverbose rfl
      simp [hrest, hread, hbounds] at hnone
  · next least most t hsome =>
    split at h
    · cases h
    · next hrepeatable =>
      have hrepeats : Pattern.Repeats r.rest t := by
        split at hsome
        case h_4 v hrest =>
          rw [hrest] at hclear
          obtain ⟨-, _, hcount, -⟩ := hclear.brace
          obtain ⟨-, ⟨bounds, hbounds⟩, -⟩ := Pattern.of_passCount? hcount
          rw [readBounds_alike (r.at_ v) { rest := v, size := 0 } hverbose rfl,
            hbounds] at hsome
          cases hsome
          exact .inr ⟨v, hrest, hcount⟩
        case h_5 => cases hsome
        all_goals
          next hrest =>
            cases hsome
            exact .inl ⟨_, by decide, hrest⟩
      have hlazy := hclear.not_possessive hrepeats
      simp only [skip?_eq_some (r := r.at_ t) hverbose (hclear.repeats hrepeats).not_comment,
        Option.bind_eq_bind, Option.bind_some] at h
      refine .inr ⟨t, hrepeats, by simpa using hrepeatable, ?_⟩
      cases t with
      | nil =>
        cases h
        rfl
      | cons c t =>
        by_cases hc : c = '?'
        · subst hc
          have hplus : ∀ u, t ≠ '+' :: u := hlazy
          dsimp only [Reading.at_] at h
          split at h
          · next hrest => exact absurd hrest (hplus _)
          · cases h
            rfl
        · have hpass : Pattern.passLazy (c :: t) = c :: t := by simp [Pattern.passLazy, hc]
          have hplus : c ≠ '+' := by
            rintro rfl
            exact hlazy t hpass
          rw [hpass]
          have hafter : times least most (!r.flags.swapGreed) e = e' ∧ r.at_ (c :: t) = after := by
            simpa [Reading.at_, hc, hplus] using h
          exact hafter.2.symm

end Extended

namespace Regular

variable {s : Reading} {rest : Text}

theorem readBounds_plain {f : Flags} (hf : f.Plain) (t : Text) : readBounds f t = readBounds {} t := by
  have hskip : ∀ t : Text, ({} : Flags).skip t = t := fun _ => rfl
  simp only [readBounds, hf.skip, hskip]

theorem readRepetition_shared (hs : s.flags.Plain) (h : Pattern.Repeats s.rest rest) (part : Nested)
    (before : List Factor) : ∃ part', readRepetition s (.part part :: before) =
      some (.part part' :: before, s.at_ (Pattern.passLazy rest)) := by
  have hfinish (least : Nat) (most : Option Nat) (t : Text) : ∃ part',
      (match t with
        | '?' :: t => (repeatLast s.flags least most true (.part part :: before)).map (·, s.at_ t)
        | t => (repeatLast s.flags least most false (.part part :: before)).map (·, s.at_ t)) =
        some (.part part' :: before, s.at_ (Pattern.passLazy t)) := by
    cases t with
    | nil => exact ⟨_, rfl⟩
    | cons c t =>
      by_cases hc : c = '?'
      · subst hc
        exact ⟨_, rfl⟩
      · refine ⟨part.around (repeated least most (false == s.flags.swapGreed) part.pattern), ?_⟩
        simp [hc, Pattern.passLazy, repeatLast]
  obtain ⟨c, hc, hrest⟩ | ⟨v, hrest, hcount⟩ := h
  · unfold readRepetition
    simp only [List.mem_cons, List.not_mem_nil, or_false] at hc
    rcases hc with rfl | rfl | rfl
    · simp only [hrest]
      exact hfinish 0 (some 1) rest
    · simp only [hrest]
      exact hfinish 0 none rest
    · simp only [hrest]
      exact hfinish 1 none rest
  · obtain ⟨⟨bounds, hbounds⟩, -⟩ := Pattern.of_passCount? hcount
    rw [← readBounds_plain hs] at hbounds
    unfold readRepetition
    simp only [hrest, hbounds, hs.skip]
    exact hfinish _ _ rest

end Regular

/-! ## Parentheses -/

/-- The readers of both dialects stand in the same place of a clear pattern, and read alike there. -/
structure Abreast (repeatable : Bool) (r : Extended.Reading) (s : Regular.Reading) : Prop where
  rest : s.rest = r.rest
  verbose : r.flags.verbose = false
  plain : s.flags.Plain
  clear : Clear s.names (.outside repeatable) r.rest

/-- An opening means the same to both dialects, with no more left than `t`. -/
inductive OpensAlike (t : Text) : Extended.Opening → Regular.Opening → Prop where
  | group {index index' : Nat} {inside : Extended.Reading} {inside' : Regular.Reading} :
      Abreast false inside inside' → inside.rest <:+ t →
        OpensAlike t (.group index inside) (.group index' inside')
  | plain {inside : Extended.Reading} {inside' : Regular.Reading} :
      Abreast false inside inside' → inside.rest <:+ t →
        OpensAlike t (.modes (.inside inside)) (.plain inside')
  | modes {after : Extended.Reading} {after' : Regular.Reading} :
      Abreast false after after' → after.rest <:+ t →
        OpensAlike t (.modes (.after after)) (.modes after')

section

variable {repeatable : Bool} {r : Extended.Reading} {s : Regular.Reading} {t rest : Text}
  {opening : Extended.Opening} {names' : List Text}

/-- A group is opened under a name that is new. -/
theorem openNamed_shared (hverbose : r.flags.verbose = false) (hs : s.flags.Plain)
    (hname : passName? s.names t = some (names', rest)) (hinside : Clear names' (.outside false) rest)
    (hread : Extended.openNamed r t = some opening) : ∃ name index index' inside inside',
      Regular.readName t = some (name, rest) ∧ s.openNamed? name rest = some (index', inside') ∧
        opening = .group index inside ∧ Abreast false inside inside' ∧ inside.rest = rest := by
  obtain ⟨name, extendedName, hregular, hextended, hnew, rfl⟩ := Pattern.of_passName? hname
  simp only [Extended.openNamed, hextended, Option.bind_eq_bind, Option.bind_some] at hread
  cases hread
  refine ⟨name, _, s.groups + 1, _,
    { s with rest := rest, groups := s.groups + 1, names := name :: s.names }, hregular, ?_, rfl,
    ⟨rfl, hverbose, hs, hinside⟩, rfl⟩
  rw [Regular.Reading.openNamed?, hnew]
  rfl

/-- A mode switch that the pass goes over is one in both dialects. -/
theorem readSwitch_shared (hverbose : r.flags.verbose = false) (hs : s.flags.Plain)
    (hpass : passSwitch? t = some rest) (hclear : Clear s.names (.outside false) rest)
    {fuel : Nat} {switch : Extended.Switch} (hrest : r.rest = t)
    (hread : Extended.readSwitch fuel 0 false r = some switch) :
    ∃ flags letters c, Flags.readSwitch [] s.flags t = some (flags, letters, c :: rest) ∧
      ∃ after,
        (switch = .after after ∧ c = ')' ∧ letters ≠ [] ∨ switch = .inside after ∧ c = ':') ∧
        after.rest = rest ∧ Abreast false after { s with flags := flags, rest := rest } := by
  obtain ⟨flags, letters, c, hregular, hunicode, hx⟩ := Pattern.of_passSwitch? hpass
  obtain ⟨after, hswitch, hafter, hconcise⟩ :=
    Extended.readSwitch_shared hread hverbose (hrest ▸ hregular) hx rfl rfl
  obtain ⟨flags', hregular', hunicode', hverbose'⟩ :=
    Flags.readSwitch_alike (g := s.flags) hregular hx hs.unicode
  exact ⟨flags', letters, c, hregular', after, hswitch, hafter, ⟨hafter.symm, hconcise,
    ⟨hunicode'.trans hunicode, hverbose'.trans hs.concise⟩, hafter ▸ hclear⟩⟩

end

/-- A parenthesis that the extended dialect opens, and that the pass goes over, opens in the linear dialect
too. -/
theorem readOpening_shared {repeatable : Bool} {r : Extended.Reading} {s : Regular.Reading} {t : Text}
    {opening : Extended.Opening} (h : Abreast repeatable r s) (hrest : r.rest = '(' :: t)
    (hread : Extended.readOpening (r.at_ t) t = some opening) :
    ∃ opening', Regular.readOpening s t = some opening' ∧ OpensAlike t opening opening' := by
  have hclear := h.clear
  rw [hrest] at hclear
  obtain ⟨names', rest, hhead, hinside⟩ := hclear.parenthesis
  have hsuffix := Pattern.passHead?_suffix hhead
  have hcomment : ¬ ['(', '?', '#'] <+: t := by
    rintro ⟨u, rfl⟩
    cases hhead
    exact hinside.not_comment ⟨u, rfl⟩
  simp only [Extended.readOpening, Option.bind_eq_bind] at hread
  rw [Extended.skip?_eq_some (r := (r.at_ t).at_ t) h.verbose hcomment, Option.bind_some] at hread
  unfold Pattern.passHead? at hhead
  split at hhead
  case h_1 t => exact absurd ⟨t, rfl⟩ (hclear.not_sign "(?=" (by decide))
  case h_2 t => exact absurd ⟨t, rfl⟩ (hclear.not_sign "(?!" (by decide))
  case h_3 t => exact absurd ⟨t, rfl⟩ (hclear.not_sign "(?>" (by decide))
  case h_4 t => exact absurd ⟨t, rfl⟩ (hclear.not_sign "(?<=" (by decide))
  case h_5 t => exact absurd ⟨t, rfl⟩ (hclear.not_sign "(?<!" (by decide))
  case h_6 t hahead hnot =>
    have hread : Extended.openNamed (r.at_ ('?' :: '<' :: t)) t = some opening := by
      simpa [Extended.Reading.at_, hahead, hnot] using hread
    obtain ⟨name, index, index', inside, inside', hname, hopen, rfl, habreast, rfl⟩ :=
      openNamed_shared h.verbose h.plain hhead hinside hread
    refine ⟨.group index' inside', ?_, .group habreast hsuffix⟩
    simp [Regular.readOpening, h.plain.skip, hname, hopen]
  case h_7 t =>
    obtain ⟨name, index, index', inside, inside', hname, hopen, rfl, habreast, rfl⟩ :=
      openNamed_shared h.verbose h.plain hhead hinside hread
    refine ⟨.group index' inside', ?_, .group habreast hsuffix⟩
    simp [Regular.readOpening, h.plain.skip, hname, hopen]
  case h_8 t hahead hnot hatomic hbehind hbehindNot hname hnamed =>
    obtain ⟨_, hswitch, heq⟩ := Option.map_eq_some_iff.mp hhead
    cases heq
    have hreference : ∀ u, t = 'P' :: '=' :: u → False := by
      rintro u rfl
      cases hswitch
    have hconditional : ∀ u, t = '(' :: u → False := by
      rintro u rfl
      cases hswitch
    have hmodes : (Extended.readSwitch (t.length + 1) 0 false (r.at_ t)).map .modes = some opening := by
      simpa [Extended.Reading.at_, hahead, hnot, hatomic, hbehind, hbehindNot, hname, hnamed, hreference,
        hconditional] using hread
    obtain ⟨switch, hletters, rfl⟩ := Option.map_eq_some_iff.mp hmodes
    obtain ⟨flags, letters, c, hregular, after, hends, rfl, habreast⟩ :=
      readSwitch_shared (r := r.at_ t) h.verbose h.plain hswitch hinside rfl hletters
    obtain ⟨rfl, rfl, hsome⟩ | ⟨rfl, rfl⟩ := hends
    · refine ⟨.modes _, ?_, .modes habreast hsuffix⟩
      simp [Regular.readOpening, h.plain.skip, hregular, hsome]
    · refine ⟨.plain _, ?_, .plain habreast hsuffix⟩
      simp [Regular.readOpening, h.plain.skip, hregular]
  case h_9 hquestion =>
    cases hhead
    have hopening : Extended.Opening.group (r.groups + 1) ((r.at_ t).openGroup t).2 = opening ∧
        Regular.readOpening s t = some (.group (s.groups + 1) (s.openGroup t).2) := by
      cases t with
      | nil =>
        cases hread
        exact ⟨rfl, by simp [Regular.readOpening, h.plain.skip, Regular.Reading.openGroup]⟩
      | cons c t =>
        have hc : c ≠ '?' := by
          rintro rfl
          exact hquestion t rfl
        constructor
        · simpa [Extended.Reading.at_, Extended.Reading.openGroup, hc] using hread
        · simp [Regular.readOpening, h.plain.skip, Regular.Reading.openGroup]
    obtain ⟨rfl, hopen⟩ := hopening
    exact ⟨_, hopen, .group ⟨rfl, h.verbose, h.plain, hinside⟩ (List.suffix_refl _)⟩

end BundleHardening
