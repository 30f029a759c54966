import BundleHardening.Proofs.Pattern.Form
import BundleHardening.Proofs.Text.Replacing
import Mathlib.Data.List.TakeWhile

/-!
# Parts of patterns

How the usual parts of a pattern are tried: exact text, a choice of exact texts, a run of characters
of a class, and the first place of a text behind a lazy run.

A part that *takes* something matches at a position in one way at most.  What it takes is then said
by a function on texts that splits off a beginning.
-/

set_option autoImplicit false

namespace BundleHardening

open Ending

namespace Text

/-- Splits off the first of the given texts that the text begins with. -/
def firstOf? (choices : List Text) (t : Text) : Option (Text × Text) :=
  choices.findSome? fun choice => (after? choice t).map (choice, ·)

theorem firstOf?_eq_some {choices : List Text} {t taken rest : Text}
    (h : firstOf? choices t = some (taken, rest)) : taken ∈ choices ∧ t = taken ++ rest := by
  obtain ⟨choice, hmem, hchoice⟩ := List.exists_of_findSome?_eq_some h
  obtain ⟨_, hrest, heq⟩ := Option.map_eq_some_iff.mp hchoice
  cases heq
  exact ⟨hmem, after?_eq_some_iff.mp hrest⟩

end Text

namespace Regular

/-- The factors of a pattern that spells a text. -/
def letters (t : Text) : List Regular :=
  t.map fun c => set (.single c)

/-- The pattern of exactly the given text. -/
def spelled (t : Text) : Regular :=
  sequence (letters t)

/-- The pattern of one of the given texts, the first preferred. -/
def choice (choices : List Text) : Regular :=
  alternation (choices.map spelled)

/-- Any number of characters of the class, as many as possible. -/
def run (c : Class) : Regular :=
  times 0 none true (set c)

/-- Any number of characters of the class, as few as possible. -/
def lazyRun (c : Class) : Regular :=
  times 0 none false (set c)

theorem tries_sequence_cons (r : Regular) (factors : List Regular) (k : Ending) :
    (sequence (r :: factors)).tries k = r.tries ((sequence factors).tries k) := by
  cases factors <;> rfl

theorem tries_sequence_append (first second : List Regular) (k : Ending) :
    (sequence (first ++ second)).tries k = (sequence first).tries ((sequence second).tries k) := by
  induction first with
  | nil => rfl
  | cons r first ih => rw [List.cons_append, tries_sequence_cons, ih, tries_sequence_cons]

/-- A greedy run takes one more character if it can. -/
theorem tries_run (c : Class) (k : Ending) (here : Cursor) (marks : Marks) :
    (run c).tries k here marks = (one c ((run c).tries k) here marks).or (k here marks) :=
  congrFun (congrFun (loop_eq true (Node.eat c).local_tries k) here) marks

/-- A lazy run takes one more character if it must. -/
theorem tries_lazyRun (c : Class) (k : Ending) (here : Cursor) (marks : Marks) :
    (lazyRun c).tries k here marks = (k here marks).or (one c ((lazyRun c).tries k) here marks) :=
  congrFun (congrFun (loop_eq false (Node.eat c).local_tries k) here) marks

/-- A greedy run in front of an ending that never refuses takes all it can. -/
theorem tries_run_of_isSome {c : Class} {k : Ending} (hk : ∀ here marks, (k here marks).isSome) :
    ∀ (here : Cursor) (marks : Marks), (run c).tries k here marks =
      k (here.ahead (here.rest.takeWhile c.contains).length) marks := by
  intro here marks
  generalize htext : here.rest = text
  induction text generalizing here with
  | nil => simp [tries_run, one, htext]
  | cons x text ih =>
    have hnext : (here.ahead 1).rest = text := Cursor.rest_ahead_one htext
    rw [tries_run]
    simp only [one, htext, List.takeWhile_cons]
    cases hx : c.contains x with
    | false => simp
    | true =>
      rw [if_pos rfl, if_pos rfl, ih (here.ahead 1) hnext, Option.or_of_isSome (hk _ _),
        Cursor.ahead_ahead, List.length_cons, Nat.add_comm 1]

/-- The pattern matches in one way at most, takes what the function splits off, and records nothing. -/
structure Takes (r : Regular) (start : Text → Option (Text × Text)) : Prop where
  splits : ∀ {t taken rest : Text}, start t = some (taken, rest) → t = taken ++ rest
  misses : ∀ {here : Cursor} (k : Ending) (marks : Marks), start here.rest = none →
    r.tries k here marks = none
  takes : ∀ {here : Cursor} {taken rest : Text} (k : Ending) (marks : Marks),
    start here.rest = some (taken, rest) → r.tries k here marks = k (here.ahead taken.length) marks

/-- Splits off one character of the class. -/
def oneOf? (c : Class) : Text → Option (Text × Text)
  | [] => none
  | x :: t => if c.contains x then some ([x], t) else none

theorem takes_set (c : Class) : (set c).Takes (oneOf? c) where
  splits {t taken rest} h := by
    cases t with
    | nil => cases h
    | cons x t =>
      rw [oneOf?] at h
      split at h <;> cases h
      rfl
  misses {here} k marks h := by
    simp only [tries, one]
    cases hrest : here.rest with
    | nil => rfl
    | cons x rest =>
      rw [hrest, oneOf?] at h
      split at h
      · cases h
      · next hx => exact if_neg hx
  takes {here taken rest} k marks h := by
    simp only [tries, one]
    cases hrest : here.rest with
    | nil => rw [hrest] at h; cases h
    | cons x rest =>
      rw [hrest, oneOf?] at h
      split at h
      · next hx => cases h; exact if_pos hx
      · cases h

theorem tries_spelled (t : Text) (k : Ending) : ∀ (here : Cursor) (marks : Marks),
    (spelled t).tries k here marks =
      if (Text.after? t here.rest).isSome then k (here.ahead t.length) marks else none := by
  induction t with
  | nil => simp [spelled, letters, sequence, tries, Text.after?]
  | cons c t ih =>
    intro here marks
    have hstep : (spelled (c :: t)).tries k = one (.single c) ((spelled t).tries k) :=
      tries_sequence_cons _ _ k
    rw [hstep, one]
    cases hrest : here.rest with
    | nil => rfl
    | cons x rest =>
      have hnext : (here.ahead 1).rest = rest := Cursor.rest_ahead_one hrest
      by_cases hx : c = x
      · simp only [Class.contains, beq_iff_eq, hx, if_true, ih, hnext, Text.after?,
          Cursor.ahead_ahead, List.length_cons, Nat.add_comm 1]
      · simp [Class.contains, Text.after?, hx]

theorem takes_spelled (t : Text) : (spelled t).Takes fun u => (Text.after? t u).map (t, ·) where
  splits h := by
    obtain ⟨_, hrest, heq⟩ := Option.map_eq_some_iff.mp h
    cases heq
    exact Text.after?_eq_some_iff.mp hrest
  misses k marks h := by
    rw [tries_spelled, Option.map_eq_none_iff.mp h]
    rfl
  takes k marks h := by
    obtain ⟨_, hrest, heq⟩ := Option.map_eq_some_iff.mp h
    cases heq
    rw [tries_spelled, hrest]
    rfl

theorem tries_choice (choices : List Text) (hne : choices ≠ []) (k : Ending) (here : Cursor)
    (marks : Marks) :
    (choice choices).tries k here marks =
      choices.findSome? fun t => (spelled t).tries k here marks := by
  induction choices with
  | nil => exact absurd rfl hne
  | cons a choices ih =>
    cases choices with
    | nil =>
      rw [List.findSome?_cons, List.findSome?_nil, show choice [a] = spelled a from rfl]
      cases (spelled a).tries k here marks <;> rfl
    | cons b choices =>
      rw [List.findSome?_cons, ← ih (List.cons_ne_nil b choices)]
      show ((spelled a).tries k here marks).or _ = _
      cases (spelled a).tries k here marks <;> rfl

/-- A choice of texts none of which begins with another takes the one that stands there. -/
theorem takes_choice {choices : List Text} (hne : choices ≠ [])
    (hapart : ∀ a ∈ choices, ∀ b ∈ choices, a <+: b → a = b) :
    (choice choices).Takes (Text.firstOf? choices) where
  splits h := (Text.firstOf?_eq_some h).2
  misses {here} k marks h := by
    rw [tries_choice choices hne]
    refine List.findSome?_eq_none_iff.mpr fun t ht => ?_
    exact (takes_spelled t).misses k marks (List.findSome?_eq_none_iff.mp h t ht)
  takes {here taken rest} k marks h := by
    obtain ⟨htaken, hsplit⟩ := Text.firstOf?_eq_some h
    -- Only `taken` can stand there, so no other choice is open when `k` refuses.
    have htries : ∀ t ∈ choices, (spelled t).tries k here marks =
        if t = taken then k (here.ahead taken.length) marks else none := by
      intro t ht
      by_cases heq : t = taken
      · rw [if_pos heq, heq, tries_spelled, hsplit, Text.after?_append]
        rfl
      · have hnone : Text.after? t here.rest = none := by
          refine Text.after?_eq_none_iff.mpr fun hpre => ?_
          rcases List.prefix_or_prefix_of_prefix hpre ⟨rest, hsplit.symm⟩ with hle | hle
          · exact heq (hapart t ht taken htaken hle)
          · exact heq (hapart taken htaken t ht hle).symm
        rw [if_neg heq, tries_spelled, hnone]
        rfl
    rw [tries_choice choices hne]
    cases hfind : choices.findSome? fun t => (spelled t).tries k here marks with
    | none =>
      have hnone := List.findSome?_eq_none_iff.mp hfind taken htaken
      rw [← hnone, htries taken htaken, if_pos rfl]
    | some out =>
      obtain ⟨t, ht, hout⟩ := List.exists_of_findSome?_eq_some hfind
      rw [htries t ht] at hout
      split at hout
      · exact hout.symm
      · cases hout

/-- A run up to the first character outside its class, which must be of the other class. -/
def runThen (c d : Class) (t : Text) : Option (Text × Text) :=
  match t.dropWhile c.contains with
  | x :: rest => if d.contains x then some (t.takeWhile c.contains ++ [x], rest) else none
  | [] => none

theorem runThen_cons (c d : Class) (x : Char) (t : Text) :
    runThen c d (x :: t) =
      if c.contains x then (runThen c d t).map fun (taken, rest) => (x :: taken, rest)
      else if d.contains x then some ([x], t) else none := by
  simp only [runThen, List.dropWhile_cons, List.takeWhile_cons]
  cases c.contains x with
  | false => rfl
  | true =>
    simp only [if_true]
    split
    · split <;> rfl
    · rfl

theorem of_runThen {c d : Class} {t taken rest : Text} (h : runThen c d t = some (taken, rest)) :
    ∃ front last, taken = front ++ [last] ∧ t = taken ++ rest ∧
      (∀ x ∈ front, c.contains x = true) ∧ d.contains last = true := by
  rw [runThen] at h
  split at h
  · next x rest' hdrop =>
    split at h
    · next hx =>
      cases h
      refine ⟨_, x, rfl, ?_, fun y hy => List.mem_takeWhile_imp hy, hx⟩
      rw [List.append_assoc, List.singleton_append, ← hdrop, List.takeWhile_append_dropWhile]
    · cases h
  · cases h

theorem runThen_append {c d : Class} {t taken rest : Text} (h : runThen c d t = some (taken, rest))
    (rest' : Text) : runThen c d (taken ++ rest') = some (taken, rest') := by
  induction t generalizing taken with
  | nil => cases h
  | cons x t ih =>
    rw [runThen_cons] at h
    split at h
    · next hx =>
      obtain ⟨⟨more, _⟩, hmore, heq⟩ := Option.map_eq_some_iff.mp h
      cases heq
      rw [List.cons_append, runThen_cons, if_pos hx, ih hmore]
      rfl
    · next hx =>
      split at h
      · next hd =>
        cases h
        rw [List.singleton_append, runThen_cons, if_neg hx, if_pos hd]
      · cases h

theorem tries_runThen {c d : Class} (hcd : ∀ x, c.contains x = true → d.contains x = false)
    (k : Ending) : ∀ (here : Cursor) (marks : Marks),
      (run c).tries (one d k) here marks =
        (runThen c d here.rest).bind fun split => k (here.ahead split.1.length) marks := by
  intro here marks
  generalize htext : here.rest = text
  induction text generalizing here with
  | nil => simp [tries_run, one, htext, runThen]
  | cons x text ih =>
    have hnext : (here.ahead 1).rest = text := Cursor.rest_ahead_one htext
    rw [tries_run, runThen_cons]
    simp only [one, htext]
    cases hx : c.contains x with
    | false =>
      cases hd : d.contains x <;> simp
    | true =>
      rw [if_pos rfl, if_pos rfl, ih (here.ahead 1) hnext, hcd x hx, if_neg Bool.false_ne_true,
        Option.or_none]
      cases runThen c d text <;> simp [Nat.add_comm 1]

/-- A run of a class up to a character of another that has no character in common with it. -/
theorem takes_runThen {c d : Class} (hcd : ∀ x, c.contains x = true → d.contains x = false) :
    (sequence [run c, set d]).Takes (runThen c d) where
  splits h := by
    obtain ⟨_, _, _, hsplit, _⟩ := of_runThen h
    exact hsplit
  misses k marks h := (tries_runThen hcd k _ marks).trans (by rw [h]; rfl)
  takes k marks h := (tries_runThen hcd k _ marks).trans (by rw [h]; rfl)

/-- Two parts in a row. -/
theorem Takes.seq {a b : Regular} {first second : Text → Option (Text × Text)} (ha : a.Takes first)
    (hb : b.Takes second) :
    (seq a b).Takes fun t => (first t).bind fun (taken, rest) =>
      (second rest).map fun (more, rest) => (taken ++ more, rest) where
  splits {t taken rest} h := by
    obtain ⟨⟨left, middle⟩, hfirst, hmore⟩ := Option.bind_eq_some_iff.mp h
    obtain ⟨⟨right, last⟩, hsecond, heq⟩ := Option.map_eq_some_iff.mp hmore
    cases heq
    rw [ha.splits hfirst, hb.splits hsecond, List.append_assoc]
  misses {here} k marks h := by
    show a.tries (b.tries k) here marks = none
    cases hfirst : first here.rest with
    | none => exact ha.misses _ marks hfirst
    | some split =>
      obtain ⟨left, middle⟩ := split
      have hmiddle : (here.ahead left.length).rest = middle := by
        rw [Cursor.rest_ahead, ha.splits hfirst, List.drop_left]
      rw [ha.takes _ marks hfirst]
      refine hb.misses k marks ?_
      rw [hfirst, Option.bind_some, Option.map_eq_none_iff] at h
      rw [hmiddle, h]
  takes {here taken rest} k marks h := by
    obtain ⟨⟨left, middle⟩, hfirst, hmore⟩ := Option.bind_eq_some_iff.mp h
    obtain ⟨⟨right, last⟩, hsecond, heq⟩ := Option.map_eq_some_iff.mp hmore
    cases heq
    have hmiddle : (here.ahead left.length).rest = middle := by
      rw [Cursor.rest_ahead, ha.splits hfirst, List.drop_left]
    show a.tries (b.tries k) here marks = _
    rw [ha.takes _ marks hfirst, hb.takes k marks (hmiddle ▸ hsecond), Cursor.ahead_ahead,
      List.length_append]

/-- A group between exact texts, in front of other factors. -/
theorem tries_group_between {body : Regular} {start : Text → Option (Text × Text)}
    (hbody : body.Takes start) (before behind : Text) (index : Nat) (factors : List Regular)
    (k : Ending) (here : Cursor) (marks : Marks) :
    (sequence (letters before ++ (group index body :: (letters behind ++ factors)))).tries k here marks =
      (Text.after? before here.rest).bind fun t => (start t).bind fun split =>
        (Text.after? behind split.2).bind fun _ =>
          (sequence factors).tries k (here.ahead (before ++ (split.1 ++ behind)).length)
            ((2 * index + 1, here.ahead (before.length + split.1.length)) ::
              (2 * index, here.ahead before.length) :: marks) := by
  rw [tries_sequence_append, tries_sequence_cons, tries_sequence_append, ← spelled, ← spelled,
    tries_spelled]
  cases hbefore : Text.after? before here.rest with
  | none => rfl
  | some t =>
    have hrest : (here.ahead before.length).rest = t := by
      rw [Cursor.rest_ahead, Text.after?_eq_some_iff.mp hbefore, List.drop_left]
    rw [Option.isSome_some, if_pos rfl, Option.bind_some]
    show body.tries (noting (2 * index + 1) _) (here.ahead before.length) _ = _
    cases hstart : start t with
    | none => rw [hbody.misses _ _ (hrest ▸ hstart)]; rfl
    | some split =>
      have hrest' : ((here.ahead before.length).ahead split.1.length).rest = split.2 := by
        rw [Cursor.rest_ahead, hrest, hbody.splits hstart, List.drop_left]
      rw [hbody.takes _ _ (hrest ▸ hstart), Option.bind_some, noting, tries_spelled, hrest']
      cases Text.after? behind split.2 with
      | none => rfl
      | some _ => simp [Nat.add_assoc]

/-- A lazy run up to exact text ends at the first place of the text. -/
theorem tries_lazyRun_spelled {separator : Text} (hne : separator ≠ []) {k : Ending}
    (hk : ∀ here marks, (k here marks).isSome) : ∀ (here : Cursor) (marks : Marks),
      (lazyRun .anything).tries ((spelled separator).tries k) here marks =
        (Escape.cut? separator here.rest).bind fun split =>
          k (here.ahead (split.1.length + separator.length)) marks := by
  intro here marks
  generalize htext : here.rest = text
  induction text generalizing here with
  | nil =>
    have hnone : Text.after? separator [] = none :=
      Text.after?_eq_none_iff.mpr fun hpre => hne (List.prefix_nil.mp hpre)
    rw [tries_lazyRun, tries_spelled, htext, hnone]
    simp [one, htext, Escape.cut?]
  | cons x text ih =>
    have hnext : (here.ahead 1).rest = text := Cursor.rest_ahead_one htext
    rw [tries_lazyRun, tries_spelled, htext, Escape.cut?]
    cases hafter : Text.after? separator (x :: text) with
    | some rest =>
      rw [Option.isSome_some, if_pos rfl, Option.or_of_isSome (hk _ _)]
      simp
    | none =>
      simp only [Option.isSome_none, Bool.false_eq_true, if_false, Option.none_or, one, htext,
        Class.contains, if_true, ih (here.ahead 1) hnext]
      cases Escape.cut? separator text <;> simp [Nat.add_right_comm, Nat.add_comm 1]

end Regular

end BundleHardening
