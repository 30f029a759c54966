import BundleHardening.Proofs.Pattern.Foreseen
import BundleHardening.Proofs.Text.Cut
import Mathlib.Tactic.FinCases

/-!
# Escapes that both dialects read alike

An escape that the extended dialect reads, and that is not one of its own, is read by the linear dialect as
well, up to the same place and as a character, a class or a condition again.
-/

set_option autoImplicit false

namespace BundleHardening

/-- The modes in which both dialects read alike: with the whole character set, and with no blanks and
comments left out. -/
structure Flags.Plain (f : Flags) : Prop where
  unicode : f.unicode = true
  concise : f.verbose = false

namespace Flags.Plain

variable {f : Flags} (hf : f.Plain)

include hf in
theorem skip (t : Text) : f.skip t = t := by
  simp [Flags.skip, hf.concise]

include hf in
/-- Every class can be closed. -/
theorem close (negated : Bool) (c : Class) : ∃ c', f.close negated c = some c' := by
  simp [Flags.close, hf.unicode]

include hf in
theorem dot : ∃ c, f.dot = some c := by
  cases hall : f.dotAll <;> cases hany : f.anyLineEnd <;> simp [Flags.dot, hf.unicode, hall, hany]

end Flags.Plain

namespace Escape

variable {f : Flags} (hf : f.Plain) {rest : Text}

include hf in
theorem readBraced_append {name : Text} (hname : '\x7d' ∉ name) (fuel : Nat)
    (hfuel : name.length < fuel) (read rest : Text) :
    readBraced f fuel read (name ++ '\x7d' :: rest) = some (read.reverse ++ name, rest) := by
  induction name generalizing fuel read with
  | nil =>
    obtain ⟨fuel, rfl⟩ := Nat.exists_eq_add_of_lt hfuel
    simp [readBraced]
  | cons c name ih =>
    cases fuel with
    | zero => cases hfuel
    | succ fuel =>
      obtain ⟨hc, hname⟩ := List.ne_and_not_mem_of_not_mem_cons hname
      have hrest := ih hname fuel (Nat.lt_of_succ_lt_succ hfuel) (c :: read)
      simp [readBraced, hf.skip, hrest, Ne.symm hc]

include hf in
theorem readDigits_append {digits : Text} (hdigits : digits.all isHexDigit = true) (value : Nat)
    (rest : Text) : readDigits f digits.length value (digits ++ rest) =
      some (digits.foldl (fun n c => n * 16 + Ranges.hexDigit c) value, rest) := by
  induction digits generalizing value with
  | nil => rfl
  | cons c digits ih =>
    obtain ⟨hc, hdigits⟩ := Bool.and_eq_true_iff.mp hdigits
    simp [readDigits, hc, hf.skip, ih hdigits]

/-- No hexadecimal digit is a brace. -/
theorem closing_not_mem {digits : Text} (h : digits.all isHexDigit = true) : '\x7d' ∉ digits := by
  intro hmem
  have hhex := List.all_eq_true.mp h _ hmem
  revert hhex
  decide

include hf in
/-- A character code in braces. -/
theorem readCode_braced {code : Text} (hne : code ≠ []) (hcode : code.all isHexDigit = true)
    {c : Char} (hscalar : Text.scalar? (Ranges.hexValue (String.ofList code)) = some c) (size : Nat)
    (rest : Text) :
    readCode f size ('\x7b' :: (code ++ '\x7d' :: rest)) = some (.literal c, rest) := by
  have hbraced := readBraced_append hf (closing_not_mem hcode) ((code ++ '\x7d' :: rest).length + 1)
    (Nat.lt_succ_of_le (List.prefix_append _ _).length_le) [] rest
  have hempty : code.isEmpty = false := List.isEmpty_eq_false_iff.mpr hne
  simp only [readCode, hf.skip, hbraced, Option.bind_eq_bind, Option.bind_some, List.reverse_nil,
    List.nil_append, hempty, hcode, hscalar, Bool.not_true, Bool.or_self, Bool.false_eq_true, if_false]
  rfl

include hf in
/-- A character code of so many digits. -/
theorem readCode_digits {digits : Text} (hne : digits ≠ []) (hdigits : digits.all isHexDigit = true)
    {c : Char} (hscalar : Text.scalar? (Ranges.hexValue (String.ofList digits)) = some c)
    (rest : Text) : readCode f digits.length (digits ++ rest) = some (.literal c, rest) := by
  have hread := readDigits_append hf hdigits 0 rest
  have hvalue : digits.foldl (fun n c => n * 16 + Ranges.hexDigit c) 0 =
      Ranges.hexValue (String.ofList digits) := by
    rw [Ranges.hexValue, String.toList_ofList]
  rw [hvalue] at hread
  rw [readCode, hf.skip]
  split
  · next heq =>
    cases digits with
    | nil => exact absurd rfl hne
    | cons d digits =>
      cases heq
      exact absurd hdigits (by simp [isHexDigit])
  · simp [hread, hf.unicode, hscalar]

/-- The pass leaves a text in braces behind it. -/
theorem passArgument_braced {size : Nat} (hsize : 0 < size) {name : Text} (hname : '\x7d' ∉ name)
    (rest : Text) : Pattern.passArgument size ('\x7b' :: (name ++ '\x7d' :: rest)) = rest := by
  cases size with
  | zero => cases hsize
  | succ size => simp [Pattern.passArgument, Text.dropWhile_ne_append hname]

/-- The pass leaves so many characters behind it. -/
theorem passArgument_append (start : Text) (hstart : ∀ t, start ++ rest ≠ '\x7b' :: t) :
    Pattern.passArgument start.length (start ++ rest) = rest := by
  cases hsize : start.length with
  | zero => rw [List.eq_nil_of_length_eq_zero hsize, List.nil_append, Pattern.passArgument]
  | succ size =>
    rw [Pattern.passArgument, ← hsize, List.drop_left]
    exact hstart

include hf in
/-- What the extended dialect reads as a character code, the linear dialect reads as well. -/
theorem readCode_shared {size : Nat} (hsize : 0 < size) {t : Text} {c : Char}
    (h : Extended.readCode size t = some (c, rest)) :
    readCode f size t = some (.literal c, rest) ∧ Pattern.passArgument size t = rest := by
  unfold Extended.readCode at h
  dsimp only at h
  split at h
  · next hfixed =>
    simp only [Bool.and_eq_true, beq_iff_eq] at hfixed
    obtain ⟨hlength, hdigits⟩ := hfixed
    obtain ⟨_, hscalar, heq⟩ := Option.map_eq_some_iff.mp h
    cases heq
    have hne : t.take size ≠ [] := by
      rw [← List.length_pos_iff, hlength]
      exact hsize
    have hread := readCode_digits hf hne hdigits hscalar (t.drop size)
    have hpass : Pattern.passArgument (t.take size).length (t.take size ++ t.drop size) =
        t.drop size := by
      refine passArgument_append _ fun u heq => ?_
      cases htake : t.take size with
      | nil => exact hne htake
      | cons d digits =>
        rw [htake] at heq hdigits
        cases heq
        exact absurd hdigits (by simp [isHexDigit])
    rw [hlength, List.take_append_drop] at hread hpass
    exact ⟨hread, hpass⟩
  · split at h
    · next t' _ =>
      split at h
      · next rest' hdrop =>
        split at h
        · cases h
        · next hsome =>
          obtain ⟨_, hscalar, heq⟩ := Option.map_eq_some_iff.mp h
          cases heq
          have hcode : (t'.takeWhile isHexDigit).all isHexDigit = true :=
            List.all_eq_true.mpr fun _ => List.mem_takeWhile_imp
          have hne : t'.takeWhile isHexDigit ≠ [] := by
            rintro hnil
            exact hsome (by simp [hnil])
          have ht : t' = t'.takeWhile isHexDigit ++ '\x7d' :: rest := by
            rw [← hdrop, List.takeWhile_append_dropWhile]
          rw [ht]
          exact ⟨readCode_braced hf hne hcode hscalar size rest,
            passArgument_braced hsize (closing_not_mem hcode) rest⟩
      · cases h
    · cases h

/-- A written set is read, or refused, in all these modes and whatever follows it. -/
def Settled (written : Text) : Prop :=
  (∀ f : Flags, f.Plain → ∀ rest, Escape.read f (written ++ rest) = none) ∨
    ∀ f : Flags, f.Plain → ∀ rest, ∃ c, Escape.read f (written ++ rest) = some (.set c, rest)

/-- A property is settled if what it names is looked up alike in all these modes. -/
theorem settled_of_lookup {letter : Char} (hletter : letter = 'p' ∨ letter = 'P') {name : Text}
    (lookup : Option (Class × Bool))
    (hread : ∀ f : Flags, f.Plain → ∀ negated rest, readProperty f negated (name ++ rest) =
      lookup.bind fun found => (f.close (negated != found.2) found.1).map (.set ·, rest)) :
    Settled (letter :: name) := by
  have hletter : ∃ negated, ∀ f t, read f (letter :: t) = readProperty f negated t := by
    obtain rfl | rfl := hletter
    · exact ⟨false, fun _ _ => rfl⟩
    · exact ⟨true, fun _ _ => rfl⟩
  obtain ⟨negated, hletter⟩ := hletter
  cases lookup with
  | none =>
    left
    intro f hf rest
    rw [List.cons_append, hletter, hread f hf, Option.bind_none]
  | some found =>
    right
    intro f hf rest
    obtain ⟨c, hclose⟩ := hf.close (negated != found.2) found.1
    exact ⟨c, by rw [List.cons_append, hletter, hread f hf, Option.bind_some, hclose, Option.map_some]⟩

theorem settled_braced {letter : Char} (hletter : letter = 'p' ∨ letter = 'P') {name : Text}
    (hname : '\x7d' ∉ name) : Settled (letter :: '\x7b' :: (name ++ ['\x7d'])) := by
  refine settled_of_lookup hletter (property? name) fun f hf negated rest => ?_
  have hbraced := readBraced_append hf hname ((name ++ '\x7d' :: rest).length + 1)
    (Nat.lt_succ_of_le (List.prefix_append _ _).length_le) [] rest
  simp only [List.cons_append, List.append_assoc, List.nil_append, readProperty, hf.unicode, hf.skip,
    hbraced, Bool.not_true, Bool.false_eq_true, if_false, Option.bind_eq_bind, Option.bind_some,
    List.reverse_nil]
  cases property? name with
  | none => rfl
  | some found => exact (Option.map_eq_bind ..).symm

theorem settled_single {letter : Char} (hletter : letter = 'p' ∨ letter = 'P') {name : Char}
    (hname : name ≠ '\x7b') : Settled [letter, name] := by
  refine settled_of_lookup hletter
    (if name == '\\' then none else (Class.ofProperty? [name]).map (·, false))
    fun f hf negated rest => ?_
  simp only [List.cons_append, List.nil_append, readProperty, hf.unicode, hf.skip, Bool.not_true,
    Bool.false_eq_true, if_false]
  split
  · rfl
  · cases Class.ofProperty? [name] with
    | none => rfl
    | some c =>
      simp only [Option.map_some, Option.bind_some, Bool.bne_false]
      exact (Option.map_eq_bind ..).symm

/-- A property that the extended dialect takes over as it is written. -/
theorem readPropertyText_shared {letter : Char} (hletter : letter = 'p' ∨ letter = 'P')
    {t written : Text} (h : Extended.readPropertyText letter t = some (written, rest)) :
    Pattern.passArgument 1 t = rest ∧
      ∃ m, written = '\\' :: m ∧ letter :: t = m ++ rest ∧ Settled m := by
  unfold Extended.readPropertyText at h
  split at h
  · next t =>
    split at h
    · next hdrop =>
      cases h
      have hclosing : '\x7d' ∉ t.takeWhile (· != '\x7d') := Text.not_mem_takeWhile_ne _ _
      have ht : t = t.takeWhile (· != '\x7d') ++ '\x7d' :: rest := by
        rw [← Text.dropWhile_eq_cons hdrop, List.takeWhile_append_dropWhile]
      refine ⟨?_, _, rfl, ?_, settled_braced hletter hclosing⟩
      · rw [ht]
        exact passArgument_braced Nat.one_pos hclosing rest
      · simpa using ht
    · cases h
  · next c t hbrace =>
    cases h
    have hname : c ≠ '\x7b' := hbrace
    refine ⟨?_, [letter, c], rfl, rfl, settled_single hletter hname⟩
    exact passArgument_append [c] fun t heq => hname (List.cons.inj heq).1
  · cases h

theorem settled_named {letter : Char} (hletter : letter ∈ ['d', 'D', 's', 'S', 'w', 'W']) :
    Settled [letter] := by
  right
  intro f hf rest
  simp only [List.mem_cons, List.not_mem_nil, or_false] at hletter
  rcases hletter with rfl | rfl | rfl | rfl | rfl | rfl
  all_goals exact ⟨_, by simp [read, named, hf.unicode]; rfl⟩

theorem escapeSize_of_not_alphanum {c : Char} (h : c.isAlphanum = false) :
    Pattern.escapeSize c = 0 := by
  unfold Pattern.escapeSize
  split
  case h_6 => rfl
  all_goals exact absurd h (by decide)

/-- A sign that has no meaning behind a backslash stands for itself there. -/
theorem read_of_not_alphanum (f : Flags) {c : Char} (h : c.isAlphanum = false) (hascii : c.toNat < 128)
    (hnot : ∀ d ∈ ['<', '>'], c ≠ d) (t : Text) : read f (c :: t) = some (.literal c, t) := by
  have hescapable : isEscapable c = true := by
    simp [isEscapable, h, hascii, hnot]
  unfold read
  dsimp only
  split
  case h_24 => exact if_pos hescapable
  case h_22 | h_23 => exact absurd rfl (hnot _ (by decide))
  all_goals exact absurd h (by decide)

/-- A character with a meaning of its own stands for itself behind a backslash. -/
theorem read_of_isMeta (f : Flags) {c : Char} (h : isMeta c = true) (t : Text) :
    read f (c :: t) = some (.literal c, t) := by
  simp only [isMeta, List.contains_iff_mem] at h
  fin_cases h <;> rfl

theorem readBoundary_of_not_brace (f : Flags) {t : Text} (h : ∀ u, t ≠ '\x7b' :: u) :
    readBoundary f t = some (.look (f.boundary .any), t) := by
  unfold readBoundary
  split
  · exact absurd rfl (h _)
  · rfl

theorem readBoundary_eq_some {r : Extended.Reading} {kind : Boundary} {t : Text}
    {answer : Extended.Escaped × Extended.Reading}
    (h : Extended.readBoundary r kind t = some answer) : (∀ u, t ≠ '\x7b' :: u) ∧
      answer = (.pattern (.look (.boundary kind)), r.at_ t) := by
  unfold Extended.readBoundary at h
  split at h
  · cases h
  · next hbrace => exact ⟨hbrace, (Option.some.inj h).symm⟩

/-- What the linear dialect makes of an escape of the extended dialect, in all these modes. -/
def Matches (t rest : Text) : Extended.Escaped → Prop
  | .literal c => ∀ f : Flags, f.Plain → read f t = some (.literal c, rest)
  | .member written => ∃ m, written = '\\' :: m ∧ t = m ++ rest ∧ Settled m
  | .pattern _ => ∀ f : Flags, f.Plain → ∃ condition, read f t = some (.look condition, rest)

/-- An escape that the pass goes over is read by both dialects, and up to the same place. -/
theorem readEscape_shared {r after : Extended.Reading} {inClass : Bool} {t : Text}
    {e : Extended.Escaped} (hpass : Pattern.passEscape? inClass t = some rest)
    (hdigit : ∀ c u, t = c :: u → c.isDigit = false)
    (h : Extended.readEscape r inClass t = some (e, after)) :
    after = r.at_ rest ∧ Matches t rest e := by
  cases t with
  | nil => cases h
  | cons c t =>
    rw [Pattern.passEscape?] at hpass
    split at hpass
    · cases hpass
    · next hown =>
      cases hpass
      simp only [Bool.or_eq_true, not_or, List.contains_iff_mem, decide_eq_true_eq, Nat.not_le] at hown
      simp only [Extended.readEscape, hdigit c t rfl, Bool.false_eq_true, if_false] at h
      split at h
      -- Escapes that only the extended dialect has.
      case h_1 | h_8 | h_9 => exact absurd (by decide) hown.1
      case h_16 | h_17 | h_30 => exact absurd (by cases inClass <;> decide) hown.1
      case h_24 hout =>
        cases inClass with
        | false => exact (hout rfl).elim
        | true => exact absurd (by decide) hown.1
      -- Conditions on the position.
      case h_2 | h_3 | h_6 | h_7 =>
        cases h
        exact ⟨rfl, fun f hf => ⟨_, rfl⟩⟩
      case h_4 =>
        obtain ⟨hbrace, heq⟩ := readBoundary_eq_some h
        cases heq
        exact ⟨rfl, fun f hf => ⟨f.boundary .any, readBoundary_of_not_brace f hbrace⟩⟩
      case h_5 =>
        obtain ⟨-, heq⟩ := readBoundary_eq_some h
        cases heq
        exact ⟨rfl, fun f hf => ⟨f.boundary .none, rfl⟩⟩
      -- Classes.
      case h_10 | h_11 | h_12 | h_13 | h_14 | h_15 =>
        cases h
        refine ⟨rfl, [_], ?_, rfl, settled_named ?_⟩
        · rfl
        · decide
      case h_21 | h_22 =>
        obtain ⟨⟨written, u⟩, hproperty, heq⟩ := Option.map_eq_some_iff.mp h
        cases heq
        obtain ⟨rfl, hm⟩ := readPropertyText_shared (by decide) hproperty
        exact ⟨rfl, hm⟩
      -- Characters.
      case h_18 | h_19 | h_20 =>
        obtain ⟨⟨c, u⟩, hcode, heq⟩ := Option.map_eq_some_iff.mp h
        cases heq
        obtain ⟨rfl, hread⟩ : Pattern.passArgument _ t = u ∧ ∀ f : Flags, f.Plain → _ :=
          ⟨(readCode_shared (f := {}) ⟨rfl, rfl⟩ (by decide) hcode).2,
            fun f hf => (readCode_shared hf (by decide) hcode).1⟩
        exact ⟨rfl, hread⟩
      case h_23 | h_25 | h_26 | h_27 | h_28 | h_29 =>
        cases h
        exact ⟨rfl, fun f hf => rfl⟩
      case h_31 hless hgreater _ _ =>
        split at h
        · cases h
        · next halpha =>
          cases h
          have hnot : ∀ d ∈ ['<', '>'], c ≠ d := by
            rintro d hd rfl
            cases inClass with
            | false =>
              simp only [List.mem_cons, List.not_mem_nil, or_false] at hd
              exact hd.elim (hless · rfl) (hgreater · rfl)
            | true => exact hown.1 (List.mem_append_right ['0', 'k', 'K', 'G', 'h', 'H', 'e', 'b'] hd)
          have halphanum : c.isAlphanum = false := by
            simp [Char.isAlphanum, halpha, hdigit c t rfl]
          rw [escapeSize_of_not_alphanum halphanum]
          exact ⟨rfl, fun f hf => read_of_not_alphanum f halphanum hown.2 hnot t⟩

theorem plain_caseless (caseless : Bool) : ({ caseless := caseless } : Flags).Plain := ⟨rfl, rfl⟩

include hf in
/-- An escape with a pattern in the extended dialect has one in the linear dialect. -/
theorem Matches.exists_read {r : Extended.Reading} {t : Text} {e : Extended.Escaped} {x : Extended}
    (h : Matches t rest e) (hx : Extended.ofEscaped? r e = some x) :
    ∃ e', read f t = some (e', rest) := by
  cases e with
  | literal c => exact ⟨_, h f hf⟩
  | pattern e =>
    obtain ⟨_, hread⟩ := h f hf
    exact ⟨_, hread⟩
  | member written =>
    obtain ⟨m, rfl, rfl, hsettled⟩ := h
    obtain hnone | hsome := hsettled
    · obtain ⟨c, hclass, -⟩ := Option.map_eq_some_iff.mp hx
      have hread := hnone _ (plain_caseless r.flags.caseless) []
      rw [List.append_nil] at hread
      simp [Extended.classOf?, hread] at hclass
    · obtain ⟨_, hread⟩ := hsome f hf rest
      exact ⟨_, hread⟩

end Escape

end BundleHardening
