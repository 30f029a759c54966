import BundleHardening.Template
import BundleHardening.Text.Digit
import Mathlib.Tactic.Choose
import Mathlib.Tactic.SplitIfs

/-!
# Templates follow the rules of ECMAScript

`Template.substituted` is ECMAScript's algorithm GetSubstitution: a template is read from left to
right as a row of references, and each is replaced on its own.  The references to the text before
and behind a match are kept as written, and no group has a name.

`Template.expand_substitutes`: expanding a template is this algorithm.  The pieces that a template falls
into depend on the number of groups alone, so what a group matched is put in as it is, and a text with
every dollar sign doubled stands for itself in front of any template.

The two definitions read numbers in different ways.  The algorithm takes as many digits as there are,
up to two, and falls back to one when the number is too great; a reference to no group is passed over
as a whole.  Expanding looks for a group of two digits, then for one of one digit, and otherwise
passes over the dollar sign alone.
-/

set_option autoImplicit false

namespace BundleHardening

/-- What the groups of a match captured, from the first one on. -/
def Groups.captures (g : Groups) : List (Option Text) :=
  g.groups.drop 1

namespace Template

/-! ## The algorithm -/

/-- The reference by number that the digits behind a dollar sign begin with, and what replaces it. -/
def numbered (captures : List (Option Text)) (t : Text) : Text × Text :=
  let digits := (t.takeWhile Char.isDigit).take 2
  let digits :=
    if captures.length < Text.decimal digits ∧ digits.length = 2 then digits.take 1 else digits
  let index := Text.decimal digits
  let written := '$' :: digits
  (written,
    if 1 ≤ index ∧ index ≤ captures.length then (captures[index - 1]?.join).getD [] else written)

/-- The reference that the rest of a template begins with, and what replaces it.  Any other character
is a reference to itself. -/
def reference (matched : Text) (captures : List (Option Text)) : Text → Text × Text
  | '$' :: c :: t =>
    if c = '$' then (['$', c], ['$'])
    else if c = '\x60' then (['$', c], ['$', c])
    else if c = '&' then (['$', c], matched)
    else if c = '\'' then (['$', c], ['$', c])
    else if c.isDigit then numbered captures (c :: t)
    else if c = '<' then (['$', c], ['$', c])
    else (['$'], ['$'])
  | c :: _ => ([c], [c])
  | [] => ([], [])

section Reference

variable (matched : Text) (captures : List (Option Text))

theorem reference_dollar (c : Char) (t : Text) :
    reference matched captures ('$' :: c :: t) =
      if c = '$' then (['$', c], ['$'])
      else if c = '\x60' then (['$', c], ['$', c])
      else if c = '&' then (['$', c], matched)
      else if c = '\'' then (['$', c], ['$', c])
      else if c.isDigit then numbered captures (c :: t)
      else if c = '<' then (['$', c], ['$', c])
      else (['$'], ['$']) :=
  rfl

theorem reference_of_ne {c : Char} (h : c ≠ '$') (t : Text) :
    reference matched captures (c :: t) = ([c], [c]) := by
  unfold reference
  split
  · next heq => exact absurd (List.cons.inj heq).1 h
  · next heq =>
    obtain ⟨rfl, rfl⟩ := List.cons.inj heq
    rfl
  · next heq => cases heq

theorem length_reference_pos (c : Char) (t : Text) :
    0 < (reference matched captures (c :: t)).1.length := by
  unfold reference
  split
  · split_ifs <;> simp [numbered]
  · simp
  · next h => cases h

end Reference

/-- The template with each reference replaced, from the left. -/
def substituted (matched : Text) (captures : List (Option Text)) : Text → Text
  | [] => []
  | c :: t =>
    (reference matched captures (c :: t)).2 ++
      substituted matched captures
        ((c :: t).drop (reference matched captures (c :: t)).1.length)
termination_by template => template.length
decreasing_by
  have hpos := length_reference_pos matched captures c t
  rw [List.length_drop, List.length_cons]
  omega

/-! ## Expanding step by step -/

section Steps

variable (g : Groups) (t : Text)

/-- Characters that belong to a token expanded before are passed over. -/
theorem expandFrom_eq (skip : Nat) : expandFrom g skip t = expand g (t.drop skip) := by
  induction t generalizing skip with
  | nil => cases skip <;> rfl
  | cons c t ih =>
    cases skip with
    | zero => rfl
    | succ skip => exact ih skip

theorem expand_cons_of_ne {c : Char} (h : c ≠ '$') : expand g (c :: t) = c :: expand g t := by
  simp only [expand, expandFrom, if_neg h]

theorem expand_dollar :
    expand g ('$' :: t) =
      match token g t with
      | some (text, width) => text ++ expand g (t.drop width)
      | none => '$' :: expand g t := by
  rw [expand, expandFrom, if_pos rfl]
  cases token g t with
  | none => rfl
  | some found => exact congrArg (found.1 ++ ·) (expandFrom_eq g t found.2)

variable {t} in
theorem expand_dollar_of_none (h : token g t = none) : expand g ('$' :: t) = '$' :: expand g t := by
  rw [expand_dollar, h]

variable {t} in
theorem expand_dollar_of_some {text : Text} {width : Nat} (h : token g t = some (text, width)) :
    expand g ('$' :: t) = text ++ expand g (t.drop width) := by
  rw [expand_dollar, h]

end Steps

/-! ## Tokens -/

section Tokens

variable (g : Groups) {c d : Char} {t : Text}

theorem token_of_ne (hdollar : c ≠ '$') (hwhole : c ≠ '&') :
    token g (c :: t) =
      match digit? c with
      | none => none
      | some first =>
        match ((t.head?.bind digit?).map fun second => first * 10 + second).filter (names g) with
        | some n => some (g.get n, 2)
        | none => if names g first then some (g.get first, 1) else none := by
  unfold token
  split
  · next h => exact absurd (List.cons.inj h).1 hdollar
  · next h => exact absurd (List.cons.inj h).1 hwhole
  · next h =>
    obtain ⟨rfl, rfl⟩ := List.cons.inj h
    rfl
  · next h => cases h

theorem digit?_of_isDigit (h : c.isDigit = true) : digit? c = some (Text.decimal [c]) := by
  simp [digit?, h, Text.decimal]

theorem digit?_of_not_isDigit (h : c.isDigit = false) : digit? c = none := by
  simp [digit?, h]

theorem ne_of_isDigit (h : c.isDigit = true) : c ≠ '$' ∧ c ≠ '&' := by
  constructor <;> (rintro rfl; cases h)

theorem token_of_not_isDigit (hdollar : c ≠ '$') (hwhole : c ≠ '&') (h : c.isDigit = false) :
    token g (c :: t) = none := by
  rw [token_of_ne g hdollar hwhole, digit?_of_not_isDigit h]

/-- Two digits name a group, or the first of them does, or neither. -/
theorem token_of_digits (hc : c.isDigit = true) (hd : d.isDigit = true) :
    token g (c :: d :: t) =
      if names g (Text.decimal [c, d]) then some (g.get (Text.decimal [c, d]), 2)
      else if names g (Text.decimal [c]) then some (g.get (Text.decimal [c]), 1)
      else none := by
  have htwo : Text.decimal [c] * 10 + Text.decimal [d] = Text.decimal [c, d] := by
    simp [Text.decimal]
  rw [token_of_ne g (ne_of_isDigit hc).1 (ne_of_isDigit hc).2, digit?_of_isDigit hc]
  simp only [List.head?_cons, Option.bind_some, digit?_of_isDigit hd, Option.map_some, htwo,
    Option.filter_some]
  cases names g (Text.decimal [c, d]) <;> simp

/-- A single digit names a group or does not. -/
theorem token_of_digit (hc : c.isDigit = true) (ht : t.head?.bind digit? = none) :
    token g (c :: t) =
      if names g (Text.decimal [c]) then some (g.get (Text.decimal [c]), 1) else none := by
  rw [token_of_ne g (ne_of_isDigit hc).1 (ne_of_isDigit hc).2, digit?_of_isDigit hc]
  simp only [ht, Option.map_none, Option.filter_none]

end Tokens

/-! ## References -/

section References

variable (g : Groups) {c d : Char} {t : Text}

theorem length_captures : g.captures.length = g.size - 1 := by
  rw [Groups.captures, List.length_drop, Groups.size]

/-- A number names a group when it is one of a capture. -/
theorem names_iff (n : Nat) : names g n = true ↔ 1 ≤ n ∧ n ≤ g.captures.length := by
  rw [length_captures, names, Bool.and_eq_true, decide_eq_true_iff, decide_eq_true_iff]
  omega

theorem get_eq_capture {n : Nat} (h : 1 ≤ n) : (g.captures[n - 1]?.join).getD [] = g.get n := by
  rw [Groups.captures, List.getElem?_drop, Nat.add_sub_cancel' h]
  rfl

/-- What replaces the reference to a number: the capture, if there is one. -/
theorem numbered_value (n : Nat) (written : Text) :
    (if 1 ≤ n ∧ n ≤ g.captures.length then (g.captures[n - 1]?.join).getD [] else written) =
      if names g n then g.get n else written := by
  by_cases h : 1 ≤ n ∧ n ≤ g.captures.length
  · rw [if_pos h, if_pos ((names_iff g n).mpr h), get_eq_capture g h.1]
  · rw [if_neg h, if_neg fun hnames => h ((names_iff g n).mp hnames)]

/-- A single digit is the number. -/
theorem numbered_of_digit (hc : c.isDigit = true) (ht : t.takeWhile Char.isDigit = []) :
    numbered g.captures (c :: t) =
      (['$', c], if names g (Text.decimal [c]) then g.get (Text.decimal [c]) else ['$', c]) := by
  have hdigits : ((c :: t).takeWhile Char.isDigit).take 2 = [c] := by
    rw [List.takeWhile_cons_of_pos hc, ht]
    rfl
  have hone : ¬ [c].length = 2 := by simp
  simp only [numbered, hdigits, hone, and_false, if_false, numbered_value]

/-- Two digits are the number unless it is too great for a capture. -/
theorem numbered_of_digits (hc : c.isDigit = true) (hd : d.isDigit = true)
    (hfits : ¬ g.captures.length < Text.decimal [c, d]) :
    numbered g.captures (c :: d :: t) =
      (['$', c, d],
        if names g (Text.decimal [c, d]) then g.get (Text.decimal [c, d]) else ['$', c, d]) := by
  have hdigits : ((c :: d :: t).takeWhile Char.isDigit).take 2 = [c, d] := by
    rw [List.takeWhile_cons_of_pos hc, List.takeWhile_cons_of_pos hd]
    rfl
  simp only [numbered, hdigits, hfits, false_and, if_false, numbered_value]

/-- Where the number of two digits is too great, the first digit is the number. -/
theorem numbered_of_excess (hc : c.isDigit = true) (hd : d.isDigit = true)
    (hexcess : g.captures.length < Text.decimal [c, d]) :
    numbered g.captures (c :: d :: t) =
      (['$', c], if names g (Text.decimal [c]) then g.get (Text.decimal [c]) else ['$', c]) := by
  have hdigits : ((c :: d :: t).takeWhile Char.isDigit).take 2 = [c, d] := by
    rw [List.takeWhile_cons_of_pos hc, List.takeWhile_cons_of_pos hd]
    rfl
  have hfirst : [c, d].take 1 = [c] := rfl
  simp only [numbered, hdigits, hexcess, List.length_cons, List.length_nil, true_and, if_true, hfirst,
    numbered_value]

end References

/-! ## Expanding reference by reference -/

section Expanding

variable (g : Groups) {c d : Char} {t : Text}

/-- The reference that the rest of a template begins with is expanded to what replaces it. -/
def Expands (g : Groups) (rest : Text) (found : Text × Text) : Prop :=
  expand g rest = found.2 ++ expand g (rest.drop found.1.length)

/-- A single digit that names no group is passed over with the dollar sign. -/
theorem expands_digit (hc : c.isDigit = true)
    (htoken : token g (c :: t) =
      if names g (Text.decimal [c]) then some (g.get (Text.decimal [c]), 1) else none) :
    Expands g ('$' :: c :: t)
      (['$', c], if names g (Text.decimal [c]) then g.get (Text.decimal [c]) else ['$', c]) := by
  cases hnames : names g (Text.decimal [c]) with
  | true =>
    rw [hnames, if_pos rfl] at htoken
    exact expand_dollar_of_some g htoken
  | false =>
    rw [hnames, if_neg Bool.false_ne_true] at htoken
    rw [Expands, expand_dollar_of_none g htoken, expand_cons_of_ne g t (ne_of_isDigit hc).1]
    rfl

/-- Two digits that name no group are passed over with the dollar sign, if the first names none
either. -/
theorem expands_digits (hc : c.isDigit = true) (hd : d.isDigit = true)
    (hfits : ¬ g.captures.length < Text.decimal [c, d]) :
    Expands g ('$' :: c :: d :: t) (['$', c, d],
      if names g (Text.decimal [c, d]) then g.get (Text.decimal [c, d]) else ['$', c, d]) := by
  have htoken := token_of_digits g (t := t) hc hd
  cases hnames : names g (Text.decimal [c, d]) with
  | true =>
    rw [hnames, if_pos rfl] at htoken
    exact expand_dollar_of_some g htoken
  | false =>
    -- The number is zero, and so is its first digit.
    have hzero : ¬ (1 ≤ Text.decimal [c, d] ∧ Text.decimal [c, d] ≤ g.captures.length) := by
      rw [← names_iff, hnames]
      exact Bool.false_ne_true
    have htwo : Text.decimal [c, d] = Text.decimal [c] * 10 + Text.decimal [d] := by
      simp [Text.decimal]
    have hfirst : names g (Text.decimal [c]) = false := by
      rw [Bool.eq_false_iff, ne_eq, names_iff]
      omega
    rw [hnames, hfirst, if_neg Bool.false_ne_true, if_neg Bool.false_ne_true] at htoken
    rw [Expands, expand_dollar_of_none g htoken, expand_cons_of_ne g _ (ne_of_isDigit hc).1,
      expand_cons_of_ne g t (ne_of_isDigit hd).1]
    rfl

/-- A reference by number is expanded to what replaces it. -/
theorem expands_numbered (hc : c.isDigit = true) :
    Expands g ('$' :: c :: t) (numbered g.captures (c :: t)) := by
  cases t with
  | nil =>
    rw [numbered_of_digit g hc rfl]
    exact expands_digit g hc (token_of_digit g hc rfl)
  | cons d t =>
    cases hd : d.isDigit with
    | false =>
      rw [numbered_of_digit g hc (List.takeWhile_cons_of_neg (by simp [hd]))]
      exact expands_digit g hc (token_of_digit g hc (digit?_of_not_isDigit hd))
    | true =>
      by_cases hexcess : g.captures.length < Text.decimal [c, d]
      · have hnames : names g (Text.decimal [c, d]) = false := by
          rw [Bool.eq_false_iff, ne_eq, names_iff]
          omega
        have htoken := token_of_digits g (t := t) hc hd
        rw [hnames, if_neg Bool.false_ne_true] at htoken
        rw [numbered_of_excess g hc hd hexcess]
        exact expands_digit g hc htoken
      · rw [numbered_of_digits g hc hd hexcess]
        exact expands_digits g hc hd hexcess

/-- A dollar sign in front of a character that stands for nothing is kept, and that character too. -/
theorem expands_kept (hdollar : c ≠ '$') (hwhole : c ≠ '&') (hc : c.isDigit = false) :
    Expands g ('$' :: c :: t) (['$', c], ['$', c]) := by
  rw [Expands, expand_dollar_of_none g (token_of_not_isDigit g hdollar hwhole hc),
    expand_cons_of_ne g t hdollar]
  rfl

/-- Every reference is expanded to what replaces it. -/
theorem expands_reference (c : Char) (t : Text) :
    Expands g (c :: t) (reference g.whole g.captures (c :: t)) := by
  by_cases hc : c = '$'
  · subst hc
    cases t with
    | nil => rfl
    | cons d t =>
      rw [reference_dollar]
      split_ifs with hdollar hbefore hwhole hbehind hdigit hname
      · subst hdollar
        exact expand_dollar_of_some g rfl
      · subst hbefore
        exact expands_kept g (by decide) (by decide) (by decide)
      · subst hwhole
        exact expand_dollar_of_some g rfl
      · subst hbehind
        exact expands_kept g (by decide) (by decide) (by decide)
      · exact expands_numbered g hdigit
      · exact expands_kept g hdollar hwhole (Bool.eq_false_iff.mpr hdigit)
      · exact expand_dollar_of_none g
          (token_of_not_isDigit g hdollar hwhole (Bool.eq_false_iff.mpr hdigit))
  · rw [reference_of_ne _ _ hc]
    exact expand_cons_of_ne g t hc

/-- Expanding a template replaces its references from the left. -/
theorem expand_eq_substituted (template : Text) :
    expand g template = substituted g.whole g.captures template := by
  induction hn : template.length using Nat.strongRecOn generalizing template with
  | ind n ih =>
    cases template with
    | nil => rw [substituted]; rfl
    | cons c t =>
      have hpos := length_reference_pos g.whole g.captures c t
      rw [substituted, expands_reference g c t]
      refine congrArg _ (ih _ ?_ _ rfl)
      rw [← hn, List.length_drop, List.length_cons]
      omega

end Expanding

/-! ## Pieces -/

/-- A piece of a template: text that stands for itself, or the number of a group. -/
abbrev Piece := Text ⊕ Nat

/-- What a piece is expanded to: the text itself, or what the group matched. -/
def Piece.text (g : Groups) : Piece → Text :=
  Sum.elim id g.get

/-- Which piece a dollar sign begins, and how long it is, depends on the number of groups alone. -/
theorem exists_token_eq (size : Nat) (t : Text) : ∃ found : Option (Piece × Nat), ∀ g : Groups,
    g.size = size → token g t = found.map fun (piece, width) => (piece.text g, width) := by
  cases t with
  | nil => exact ⟨none, fun g _ => rfl⟩
  | cons c t =>
    by_cases hdollar : c = '$'
    · subst hdollar
      exact ⟨some (.inl ['$'], 1), fun g _ => rfl⟩
    by_cases hwhole : c = '&'
    · subst hwhole
      exact ⟨some (.inr 0, 1), fun g _ => rfl⟩
    cases hfirst : digit? c with
    | none =>
      refine ⟨none, fun g _ => ?_⟩
      rw [token_of_ne g hdollar hwhole, hfirst]
      rfl
    | some first =>
      let named (n : Nat) : Bool := 0 < n && n < size
      refine ⟨match ((t.head?.bind digit?).map fun second => first * 10 + second).filter named with
        | some n => some (.inr n, 2)
        | none => if named first then some (.inr first, 1) else none, fun g hsize => ?_⟩
      have hnames : names g = named := by
        funext n
        rw [names, hsize]
      rw [token_of_ne g hdollar hwhole, hfirst, hnames]
      dsimp only
      split
      · rfl
      · split_ifs <;> rfl

/-- The pieces that a template falls into depend on the number of groups alone. -/
theorem exists_pieces (size : Nat) (template : Text) : ∃ pieces : List Piece, ∀ g : Groups,
    g.size = size → expand g template = pieces.flatMap (Piece.text g) := by
  induction hn : template.length using Nat.strongRecOn generalizing template with
  | ind n ih =>
    cases template with
    | nil => exact ⟨[], fun g _ => rfl⟩
    | cons c t =>
      -- What is left behind a piece falls into pieces; the piece goes in front of them.
      have hbehind (piece : Piece) (skip : Nat) (hpiece : ∀ g : Groups, g.size = size →
          expand g (c :: t) = piece.text g ++ expand g (t.drop skip)) :
          ∃ pieces : List Piece, ∀ g : Groups, g.size = size →
            expand g (c :: t) = pieces.flatMap (Piece.text g) := by
        have hshort : (t.drop skip).length < n := by
          rw [← hn, List.length_drop, List.length_cons]
          omega
        obtain ⟨pieces, hpieces⟩ := ih _ hshort (t.drop skip) rfl
        refine ⟨piece :: pieces, fun g hsize => ?_⟩
        rw [hpiece g hsize, hpieces g hsize, List.flatMap_cons]
      by_cases hc : c = '$'
      · subst hc
        obtain ⟨found, hfound⟩ := exists_token_eq size t
        cases found with
        | none =>
          exact hbehind (.inl ['$']) 0 fun g hsize => expand_dollar_of_none g (hfound g hsize)
        | some found =>
          exact hbehind found.1 found.2 fun g hsize => expand_dollar_of_some g (hfound g hsize)
      · exact hbehind (.inl [c]) 0 fun g _ => expand_cons_of_ne g t hc

/-! ## Doubled dollar signs -/

/-- A text with every dollar sign doubled. -/
def doubled (s : Text) : Text :=
  s.flatMap fun c => if c = '$' then ['$', '$'] else [c]

/-- Doubled dollar signs stand for themselves, whatever follows. -/
theorem expand_doubled_append (g : Groups) (s u : Text) :
    expand g (doubled s ++ u) = s ++ expand g u := by
  induction s with
  | nil => rfl
  | cons c s ih =>
    rw [doubled, List.flatMap_cons, ← doubled, List.append_assoc, List.cons_append, ← ih]
    by_cases hc : c = '$'
    · subst hc
      have htoken : token g ('$' :: (doubled s ++ u)) = some (['$'], 1) := rfl
      exact expand_dollar_of_some g htoken
    · rw [if_neg hc]
      exact expand_cons_of_ne g _ hc

/-- Expanding a template is the algorithm of ECMAScript: the references are replaced from the left, by the
match and by what its groups captured.  The pieces of a template depend on the number of groups and not on
what they matched, so nothing that is put in is read again.  A text with its dollar signs doubled stands
for itself in front of any template. -/
theorem expand_substitutes :
    (∀ (g : Groups) (template : Text),
      expand g template = substituted g.whole g.captures template) ∧
    (∃ pieces : Nat → Text → List Piece, ∀ (g : Groups) (template : Text),
      expand g template = (pieces g.size template).flatMap (Piece.text g)) ∧
    ∀ (g : Groups) (s u : Text), expand g (doubled s ++ u) = s ++ expand g u := by
  choose pieces hpieces using exists_pieces
  exact ⟨expand_eq_substituted, ⟨pieces, fun g template => hpieces g.size template g rfl⟩,
    expand_doubled_append⟩

/-- With two captures there is no group twelve, and a group that captured a reference is put in as it
is. -/
example : expand ⟨[some "ab".toList, some "$&".toList, none], []⟩ "$12-$02-$&-$00".toList =
    "$&2--ab-$00".toList := by
  decide

end Template

end BundleHardening
