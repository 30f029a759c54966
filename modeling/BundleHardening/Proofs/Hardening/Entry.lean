import BundleHardening.Hardening.ObjectLiteral
import BundleHardening.Proofs.Pattern.Parts
import BundleHardening.Proofs.Rule

/-!
# Entries behind a brace

The patterns for literals have one shape: something that ends in a brace, as group one; blank space;
and the first character inside as group two.  What stands before the brace differs, and is all that a
pattern of this shape has of its own.

Such a pattern is tried twice over: when nothing but blank space is left, the run of blank space gives
back the last character that does not end a line.  `firstInside?` says so, and `reads_entry` that the
pattern does it.
-/

set_option autoImplicit false

namespace BundleHardening

/-- The blank space that is passed over, the first character inside, and what follows.  Where nothing
but blank space is left, the character is the last one that does not end a line. -/
def firstInside? : Text → Option (Text × Char × Text)
  | [] => none
  | c :: t =>
    if isBlank c then
      match firstInside? t with
      | some (blanks, next, rest) => some (c :: blanks, next, rest)
      | none => if c = '\n' then none else some ([], c, t)
    else some ([], c, t)

theorem firstInside?_of_not_blank {c : Char} (hc : isBlank c = false) (t : Text) :
    firstInside? (c :: t) = some ([], c, t) := by
  rw [firstInside?, if_neg (by simp [hc])]

theorem firstInside?_of_blank {c : Char} (hc : isBlank c = true) (t : Text) :
    firstInside? (c :: t) =
      ((firstInside? t).map fun found => (c :: found.1, found.2.1, found.2.2)).or
        (if c = '\n' then none else some ([], c, t)) := by
  rw [firstInside?, if_pos hc]
  cases firstInside? t <;> rfl

theorem of_firstInside? {t blanks rest : Text} {next : Char}
    (h : firstInside? t = some (blanks, next, rest)) :
    t = blanks ++ next :: rest ∧ ∀ c ∈ blanks, isBlank c = true := by
  induction t generalizing blanks with
  | nil => cases h
  | cons c t ih =>
    cases hc : isBlank c with
    | false =>
      rw [firstInside?_of_not_blank hc] at h
      cases h
      exact ⟨rfl, nofun⟩
    | true =>
      rw [firstInside?_of_blank hc] at h
      cases hin : firstInside? t with
      | some found =>
        rw [hin] at h
        cases h
        obtain ⟨ht, hblanks⟩ := ih hin
        exact ⟨congrArg (c :: ·) ht, List.forall_mem_cons.mpr ⟨hc, hblanks⟩⟩
      | none =>
        rw [hin] at h
        by_cases hne : c = '\n'
        · simp [hne] at h
        · rw [if_neg hne] at h
          cases h
          exact ⟨rfl, nofun⟩

namespace Regular

/-- Blank space, and one character that does not end a line as group two. -/
def inside : Regular :=
  seq (run .blank) (group 2 (set .anyButNewline))

/-- A pattern as group one, with the first character behind it that is not blank as group two. -/
def entry (opening : Regular) : Regular :=
  seq (group 1 opening) inside

/-- The marks of group two behind so much blank space. -/
def insideMarks (here : Cursor) (blanks : Text) : Marks :=
  [(5, here.ahead (blanks.length + 1)), (4, here.ahead blanks.length)]

theorem tries_inside {k : Ending} (hk : ∀ here marks, (k here marks).isSome) :
    ∀ (here : Cursor) (marks : Marks), inside.tries k here marks =
      (firstInside? here.rest).bind fun found =>
        k (here.ahead (found.1.length + 1)) (insideMarks here found.1 ++ marks) := by
  intro here marks
  show (run .blank).tries ((group 2 (set .anyButNewline)).tries k) here marks = _
  generalize htext : here.rest = text
  induction text generalizing here with
  | nil => simp [tries_run, Ending.one, tries, Ending.noting, htext, firstInside?]
  | cons c text ih =>
    have hnext : (here.ahead 1).rest = text := Cursor.rest_ahead_one htext
    have hdot : Class.anyButNewline.contains c = !decide (c = '\n') := by
      simp [Class.contains, Class.anyButNewline, eq_comm, beq_eq_decide]
    have hlater := ih (here.ahead 1) hnext
    rw [tries_run]
    simp only [tries, Ending.noting, Ending.one, htext] at hlater ⊢
    rw [hdot]
    by_cases hc : Class.blank.contains c = true
    · rw [firstInside?_of_blank hc, if_pos hc, hlater]
      cases firstInside? text with
      | some found =>
        have hsome := hk ((here.ahead 1).ahead (found.1.length + 1))
          (insideMarks (here.ahead 1) found.1 ++ marks)
        rw [Option.bind_some, Option.or_of_isSome hsome]
        simp [insideMarks, Nat.add_comm, Nat.add_left_comm]
      | none => by_cases hne : c = '\n' <;> simp [insideMarks, hne]
    · have hne : c ≠ '\n' := by rintro rfl; exact hc rfl
      rw [firstInside?_of_not_blank (Bool.eq_false_iff.mpr hc), if_neg hc]
      simp [insideMarks, hne]

end Regular

variable {opening : Regular} {start : Text → Option (Text × Text)}

/-- The groups of a match: what was taken, so much blank space, and a character. -/
def entryGroups (taken blanks : Text) (next : Char) (rest : Text) : Groups where
  groups := [some (taken ++ blanks ++ [next]), some taken, some [next]]
  after := rest

/-- The form of an opening with the first character inside. -/
def Form.entry (h : opening.Takes start) : Form where
  read t := (start t).bind fun (taken, rest) =>
    (firstInside? rest).map fun (blanks, next, rest) => entryGroups taken blanks next rest
  splits {t g} hread := by
    obtain ⟨⟨taken, middle⟩, hstart, hread⟩ := Option.bind_eq_some_iff.mp hread
    obtain ⟨⟨blanks, next, rest⟩, hin, rfl⟩ := Option.map_eq_some_iff.mp hread
    rw [h.splits hstart, (of_firstInside? hin).1]
    simp [entryGroups, Groups.whole, Groups.get, Groups.get?]
  advances {t g} hread := by
    obtain ⟨⟨taken, middle⟩, hstart, hread⟩ := Option.bind_eq_some_iff.mp hread
    obtain ⟨⟨blanks, next, rest⟩, hin, rfl⟩ := Option.map_eq_some_iff.mp hread
    simp [entryGroups, Groups.whole, Groups.get, Groups.get?]

/-- A pattern of the shape matches what its form says. -/
theorem Regular.reads_entry (h : opening.Takes start) (hadvancing : opening.advancing = true)
    (hgroups : opening.lastGroup = 0) : opening.entry.Reads (.entry h) where
  advancing := by simp [Regular.advancing, entry, inside, run, hadvancing, nullable]
  misses here hread := by
    show opening.tries _ here _ = none
    cases hstart : start here.rest with
    | none => exact h.misses _ _ hstart
    | some split =>
      obtain ⟨taken, rest⟩ := split
      have hrest : (here.ahead taken.length).rest = rest := by
        rw [Cursor.rest_ahead, h.splits hstart, List.drop_left]
      have hin : firstInside? rest = none := by simpa [Form.entry, hstart] using hread
      rw [h.takes _ _ hstart, Ending.noting, tries_inside (fun _ _ => rfl), hrest, hin]
      rfl
  takes here g hread := by
    obtain ⟨⟨taken, middle⟩, hstart, hread⟩ := Option.bind_eq_some_iff.mp hread
    obtain ⟨⟨blanks, next, rest⟩, hin, rfl⟩ := Option.map_eq_some_iff.mp hread
    have hmiddle : (here.ahead taken.length).rest = middle := by
      rw [Cursor.rest_ahead, h.splits hstart, List.drop_left]
    have hwhole : (entryGroups taken blanks next rest).whole = taken ++ blanks ++ [next] := rfl
    have htext : here.rest = taken ++ blanks ++ next :: rest := by
      rw [h.splits hstart, (of_firstInside? hin).1, List.append_assoc]
    let marks : Marks := (1, here.ahead (taken.length + (blanks.length + 1))) ::
      (insideMarks (here.ahead taken.length) blanks ++ [(3, here.ahead taken.length), (2, here), (0, here)])
    refine ⟨marks, [some (here, here.ahead taken.length), some (here.ahead (taken.length + blanks.length),
      here.ahead (taken.length + (blanks.length + 1)))], ?_, ?_, ?_⟩
    · show opening.tries _ here _ = _
      rw [h.takes _ _ hstart, Ending.noting, tries_inside (fun _ _ => rfl), hmiddle, hin,
        Option.bind_some]
      simp [marks, Ending.noting, Ending.final]
    · have hlast : opening.entry.lastGroup = 2 := by simp [entry, inside, run, lastGroup, hgroups]
      rw [hlast, hwhole]
      simp [Pattern.foundOf, Pattern.spanOf, Marks.at?, List.range_succ, List.lookup_cons, marks, insideMarks]
    · rw [hwhole]
      have hlen : (taken ++ blanks ++ [next]).length = taken.length + (blanks.length + 1) := by simp
      have htake : here.rest.take (taken.length + (blanks.length + 1)) = taken ++ blanks ++ [next] := by
        rw [htext, ← hlen, List.append_cons _ next rest]
        exact List.take_left
      have hone : taken.length + (blanks.length + 1) - (taken.length + blanks.length) = 1 := by omega
      rw [hlen, Scan.groupsOf, Cursor.upTo_self_ahead, htake]
      simp [Cursor.upTo_self_ahead, Cursor.upTo_ahead, htext, entryGroups, hone]

end BundleHardening
