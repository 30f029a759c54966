import BundleHardening.Proofs.Hardening.ObjectLiteral

/-!
# A scanner for object literals

The guard of a text can be written down by hand, without a pattern: go to the nearest character behind
which a literal opens, copy what stands before, enter `__proto__: null` behind the brace unless the
literal has the key already, and go on behind the first character inside.  `substitute_eq_scan` says that
the substitution of the guard gives what this scanner gives, on every text.
-/

set_option autoImplicit false

namespace BundleHardening.LiteralScanner

section Definitions

/-- What passes the opening of a literal, when the text begins with one: a character behind which a
literal may stand, blank space and the brace. -/
def pastBrace? : Text → Option (Text × Text)
  | [] => none
  | c :: t =>
    if c ∈ ['[', '(', ',', '=', ':'] then
      match t.dropWhile isBlank with
      | '\x7b' :: inside => some (c :: t.takeWhile isBlank ++ ['\x7b'], inside)
      | _ => none
    else none

/-- The last character that does not end a line, with what stands before and behind it. -/
def lastInLine? : Text → Option (Text × Char × Text)
  | [] => none
  | c :: t =>
    match lastInLine? t with
    | some (before, last, rest) => some (c :: before, last, rest)
    | none => if c = '\n' then none else some ([], c, t)

/-- The first character that is not blank; where only blank space remains, the last one that does not end
a line. -/
def inside? (t : Text) : Option (Text × Char × Text) :=
  match t.dropWhile isBlank with
  | c :: rest => some (t.takeWhile isBlank, c, rest)
  | [] => lastInLine? t

/-- A place where a literal opens: the text through its brace, what stands between the brace and the first
character inside, that character, and the text behind it. -/
structure Site where
  opening : Text
  skipped : Text
  first : Char
  rest : Text

/-- The literal that opens at the beginning of a text. -/
def site? (t : Text) : Option Site :=
  (pastBrace? t).bind fun (opening, behind) =>
    (inside? behind).map fun (skipped, first, rest) => ⟨opening, skipped, first, rest⟩

/-- Whether the literal has the key already. -/
def Site.hasKey (s : Site) : Bool :=
  s.first == '_' && "_proto__".toList.isPrefixOf s.rest &&
    ((s.rest.drop "_proto__".length).dropWhile isBlank).head? == some ':'

/-- What the scanner writes for a literal, the first character inside included. -/
def Site.written (s : Site) : Text :=
  if s.hasKey then s.opening ++ s.skipped ++ [s.first]
  else s.opening ++ "__proto__: null".toList ++ (if s.first = '\x7d' then [] else [',']) ++ [s.first]

/-- The literal that opens at the least position, with the text before it. -/
def nearest? (t : Text) : Option (Text × Site) :=
  (List.range t.length).findSome? fun i => (site? (t.drop i)).map fun site => (t.take i, site)

end Definitions

section Sites

open ObjectLiteral Regular

variable {t : Text}

/-- The characters are those of the class in the pattern. -/
theorem openers_contains (c : Char) : openers.contains c = decide (c ∈ ['[', '(', ',', '=', ':']) := by
  simp [openers, Class.contains, beq_eq_decide, eq_comm]

/-- The scanner passes the openings that the pattern takes. -/
theorem pastBrace?_eq_opening? (t : Text) : pastBrace? t = opening? t := by
  cases t with
  | nil => rfl
  | cons c t =>
    cases hc : openers.contains c with
    | false =>
      have hmem : c ∉ ['[', '(', ',', '=', ':'] := by simpa [openers_contains] using hc
      rw [opening?_of_not_opener hc, pastBrace?, if_neg hmem]
    | true =>
      rw [opening?_cons hc, pastBrace?, if_pos (mem_of_opener hc), runThen]
      have hblank : Class.blank.contains = isBlank := rfl
      rw [hblank]
      cases t.dropWhile isBlank with
      | nil => rfl
      | cons d inside =>
        by_cases hd : d = '\x7b'
        · subst hd
          rfl
        · have hsingle : (Class.single '\x7b').contains d = false := beq_false_of_ne (Ne.symm hd)
          simp [hsingle, hd]

/-- The scanner finds the character that the pattern finds by giving back blank space. -/
theorem inside?_eq_firstInside? (t : Text) : inside? t = firstInside? t := by
  induction t with
  | nil => rfl
  | cons c t ih =>
    cases hc : isBlank c with
    | false =>
      rw [firstInside?_of_not_blank hc, inside?]
      simp [hc]
    | true =>
      rw [firstInside?_of_blank hc, ← ih, inside?, inside?]
      simp only [List.dropWhile_cons, List.takeWhile_cons, hc, if_true]
      cases hdrop : t.dropWhile isBlank with
      | cons d rest => rfl
      | nil =>
        show lastInLine? (c :: t) = _
        rw [lastInLine?]
        cases lastInLine? t with
        | none => rfl
        | some found => rfl

example : inside? [' ', '\t', '\n'] = some ([' '], '\t', ['\n']) := by
  rfl

/-- A match of the pattern is a literal that the scanner finds. -/
theorem read_eq_site? (t : Text) :
    openings.read t = (site? t).map fun s => entryGroups s.opening s.skipped s.first s.rest := by
  rw [site?, pastBrace?_eq_opening?]
  simp only [openings, Form.entry, Option.map_bind, inside?_eq_firstInside?]
  congr 1
  funext split
  rw [Function.comp_apply, Option.map_map]
  rfl

theorem hasKey_iff (s : Site) : s.hasKey = true ↔ IsProtoKey s.first s.rest := by
  rw [Site.hasKey, IsProtoKey, continuesProtoKey, Bool.and_assoc, Bool.and_eq_true, beq_iff_eq]
  refine and_congr_right fun _ => ?_
  cases hafter : Text.after? "_proto__".toList s.rest with
  | none =>
    have hno : "_proto__".toList.isPrefixOf s.rest = false := by
      rw [Bool.eq_false_iff, Ne, List.isPrefixOf_iff_prefix]
      exact Text.after?_eq_none_iff.mp hafter
    rw [hno, Bool.false_and]
  | some behind =>
    have hyes : "_proto__".toList.isPrefixOf s.rest = true := by
      rw [List.isPrefixOf_iff_prefix]
      exact ⟨behind, (Text.after?_eq_some_iff.mp hafter).symm⟩
    have hdrop : s.rest.drop "_proto__".length = behind := by
      rw [Text.after?_eq_some_iff.mp hafter]
      exact List.drop_left
    rw [hyes, hdrop, Bool.true_and]
    show _ ↔ Text.startsWith (behind.dropWhile isBlank) [':'] = true
    cases behind.dropWhile isBlank with
    | nil => simp [Text.startsWith, Text.after?]
    | cons d _ =>
      rw [Text.startsWith, Text.after?]
      by_cases hd : d = ':'
      · subst hd
        simp [Text.after?]
      · simp [hd, Ne.symm hd]

/-- The guarded form of a match is what the scanner writes. -/
theorem guarded_eq_written (s : Site) :
    guarded (entryGroups s.opening s.skipped s.first s.rest) = s.written := by
  rw [Site.written]
  split
  · next h => exact guarded_of_protoKey ((hasKey_iff s).mp h)
  · next h => exact guarded_of_not_protoKey (mt (hasKey_iff s).mpr h)

end Sites

section Nearest

variable {c : Char} {t : Text} {s : Site}

/-- A literal that opens at the beginning is the nearest one. -/
theorem nearest?_of_site (h : site? t = some s) : nearest? t = some ([], s) := by
  cases t with
  | nil => cases h
  | cons c t =>
    rw [nearest?, List.length_cons, List.range_succ_eq_map, List.findSome?_cons]
    simp [h]

theorem nearest?_cons (h : site? (c :: t) = none) :
    nearest? (c :: t) = (nearest? t).map fun (before, s) => (c :: before, s) := by
  rw [nearest?, List.length_cons, List.range_succ_eq_map, List.findSome?_cons]
  simp only [List.drop_zero, h, Option.map_none, List.findSome?_map, nearest?, List.map_findSome?]
  congr 1
  funext i
  show ((site? (t.drop i)).map fun site => (c :: t.take i, site)) = _
  rw [Function.comp_apply, Option.map_map]
  rfl

/-- The scanner goes on behind a shorter text. -/
theorem length_rest_lt {before : Text} (h : nearest? t = some (before, s)) :
    s.rest.length < t.length := by
  obtain ⟨i, -, hi⟩ := List.exists_of_findSome?_eq_some h
  obtain ⟨site, hsite, heq⟩ := Option.map_eq_some_iff.mp hi
  cases heq
  have hread := read_eq_site? (t.drop i)
  rw [hsite] at hread
  have hshort := Form.length_after hread
  rw [List.length_drop] at hshort
  exact Nat.lt_of_lt_of_le hshort (Nat.sub_le _ _)

end Nearest

/-- The scanner: what stands before the nearest literal is copied, the literal is entered, and the scanner
goes on behind the first character inside; where no literal opens, the rest is copied. -/
def scan (t : Text) : Text :=
  match h : nearest? t with
  | none => t
  | some (before, s) =>
    have : s.rest.length < t.length := length_rest_lt h
    before ++ (s.written ++ scan s.rest)
termination_by t.length

section Scanned

open ObjectLiteral

variable {c : Char} {t : Text} {s : Site}

theorem scan_of_none (h : nearest? t = none) : scan t = t := by
  rw [scan]
  split
  · rfl
  · next hsome => rw [h] at hsome; cases hsome

theorem scan_of_some {before : Text} (h : nearest? t = some (before, s)) :
    scan t = before ++ (s.written ++ scan s.rest) := by
  rw [scan]
  split
  · next hnone => rw [h] at hnone; cases hnone
  · next hsome => rw [h] at hsome; cases hsome; rfl

theorem scan_of_site (h : site? t = some s) : scan t = s.written ++ scan s.rest :=
  scan_of_some (nearest?_of_site h)

theorem scan_cons (h : site? (c :: t) = none) : scan (c :: t) = c :: scan t := by
  have hnearest := nearest?_cons h
  cases hn : nearest? t with
  | none =>
    rw [hn] at hnearest
    rw [scan_of_none hn, scan_of_none hnearest]
  | some found =>
    rw [hn] at hnearest
    rw [scan_of_some hn, scan_of_some hnearest]
    rfl

/-- The guard gives what the scanner gives. -/
theorem guard_eq_scan (t : Text) : guard t = scan t := by
  induction t using openings.induction with
  | nil => rw [guard_nil, scan_of_none rfl]
  | keep c t hread ih =>
    have h : site? (c :: t) = none := Option.map_eq_none_iff.mp ((read_eq_site? (c :: t)).symm.trans hread)
    rw [scan_cons h, ← ih]
    exact openings.rewrite_cons guarded hread
  | hit t g hread ih =>
    obtain ⟨s, h, hs⟩ := Option.map_eq_some_iff.mp ((read_eq_site? t).symm.trans hread)
    have hafter : s.rest = g.after := by rw [← hs]; rfl
    rw [scan_of_site h, ← guarded_eq_written s, hs, hafter, ← ih]
    exact openings.rewrite_of_read guarded hread

/-- Substituting the pattern of an opening by its guarded form gives what the scanner gives, on every text
and in every context.  The result is absent when the scanner changes nothing. -/
theorem substitute_eq_scan (t : Text) (ctx : Context) :
    guardSubstitution.substitute t ctx = .done (if scan t = t then none else some (scan t)) := by
  rw [acts_guard t ctx, guard_eq_scan]
  rfl

end Scanned

end BundleHardening.LiteralScanner
