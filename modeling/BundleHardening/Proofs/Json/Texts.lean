import BundleHardening.Proofs.Json.Quoted

/-!
# Objects of strings

The lines that are written for other programs are objects whose values are all strings.  `texts?` reads the
members of such an object, and gives back what was written (`texts?_textObject`).
-/

set_option autoImplicit false

namespace BundleHardening.Json

/-- The written form of an object whose values are strings. -/
def textObject (ms : List (String × Text)) : Text :=
  object (ms.map fun m => member m.1 (quote m.2))

/-- Reads a member whose value is a string, behind the members that were read before. -/
def textMember (found : List (String × Text)) (key : Text) : Reader (List (String × Text)) := fun t => do
  let ((), t) ← colon t
  let (value, t) ← stringValue t
  .ok (found ++ [(String.ofList key, value)], t)

/-- Reads an object whose values are strings. -/
def texts : Reader (List (String × Text)) := fun t =>
  match skipSpace t with
  | '{' :: t => members textMember [] t
  | t => .error (wrongShape t)

/-- The members of the object that a text holds, if their values are strings. -/
def texts? (t : Text) : Except Fault (List (String × Text)) :=
  document texts t

variable {first : Bool} {k v : Text} {m : String × Text} {rest : Text}

/-! ## Reading one member -/

/-- The first key of an object is read up to its colon. -/
theorem nextKey_first : nextKey true (quote k ++ rest) = .ok (some k, rest) := by
  rw [quote_append, nextKey, skipSpace_cons rfl]
  change (string (k.flatMap escapeChar ++ '"' :: rest)).map (fun p => (some p.1, p.2)) = _
  rw [string_written]
  rfl

/-- A further key is read behind a comma. -/
theorem nextKey_further : nextKey false (',' :: (quote k ++ rest)) = .ok (some k, rest) := by
  rw [quote_append, nextKey, skipSpace_cons rfl]
  change (string (k.flatMap escapeChar ++ '"' :: rest)).map (fun p => (some p.1, p.2)) = _
  rw [string_written]
  rfl

/-- A closing brace ends the members. -/
theorem nextKey_end : nextKey first ('}' :: rest) = .ok (none, rest) := by
  rw [nextKey, skipSpace_cons rfl]
  rfl

/-- Behind its key, the value of a written member is read. -/
theorem textMember_written (found : List (String × Text)) :
    textMember found k (':' :: (quote v ++ rest)) =
      .ok (found ++ [(String.ofList k, v)], rest) := by
  have hcolon : colon (':' :: (quote v ++ rest)) = .ok ((), quote v ++ rest) := by
    rw [colon, skipSpace_cons rfl]
    rfl
  rw [textMember, hcolon]
  dsimp only [bind, Except.bind]
  rw [stringValue_quote]

/-- A written member, with what stands behind it. -/
theorem member_append : member m.1 (quote m.2) ++ rest = quote m.1.toList ++ ':' :: (quote m.2 ++ rest) := by
  simp [member]

/-! ## Reading all members -/

/-- The members behind the first, each with its comma. -/
def furtherMembers (ms : List (String × Text)) : Text :=
  ms.flatMap fun m => ',' :: member m.1 (quote m.2)

/-- The written form of an object that is not empty. -/
theorem textObject_cons (m : String × Text) (ms : List (String × Text)) :
    textObject (m :: ms) = '{' :: (member m.1 (quote m.2) ++ (furtherMembers ms ++ ['}'])) := by
  rw [textObject, object, List.map_cons, joined_cons, List.flatMap_map, furtherMembers]
  simp

/-- Each further member takes up a character at least. -/
theorem length_le_length_furtherMembers (ms : List (String × Text)) :
    ms.length ≤ (furtherMembers ms).length := by
  induction ms with
  | nil => exact Nat.zero_le _
  | cons m ms ih =>
    rw [furtherMembers, List.flatMap_cons, List.length_append, List.length_cons, List.length_cons,
      ← furtherMembers]
    omega

/-- The members behind the first are read behind those that were read before. -/
theorem membersFrom_furtherMembers {fuel : Nat} (found ms : List (String × Text))
    (hfuel : ms.length < fuel) :
    membersFrom textMember fuel false found (furtherMembers ms ++ '}' :: rest) =
      .ok (found ++ ms, rest) := by
  induction ms generalizing fuel found with
  | nil =>
    obtain ⟨fuel, rfl⟩ := Nat.exists_eq_add_of_lt hfuel
    rw [furtherMembers, List.flatMap_nil, List.nil_append, List.append_nil, membersFrom, nextKey_end]
    rfl
  | cons m ms ih =>
    obtain ⟨fuel, rfl⟩ := Nat.exists_eq_add_of_lt hfuel
    have hwritten : furtherMembers (m :: ms) ++ '}' :: rest =
        ',' :: (quote m.1.toList ++ ':' :: (quote m.2 ++ (furtherMembers ms ++ '}' :: rest))) := by
      rw [furtherMembers, List.flatMap_cons, List.append_assoc, List.cons_append, member_append,
        ← furtherMembers]
    rw [hwritten, membersFrom, nextKey_further]
    dsimp only [bind, Except.bind]
    rw [textMember_written, String.ofList_toList]
    dsimp only
    rw [ih _ (by simp at hfuel ⊢; omega)]
    simp

/-- What was written as an object of strings is read back. -/
theorem texts?_textObject (ms : List (String × Text)) : texts? (textObject ms) = .ok ms := by
  have hread : texts (textObject ms) = .ok (ms, []) := by
    cases ms with
    | nil => rfl
    | cons m ms =>
      have hlength := length_le_length_furtherMembers ms
      rw [textObject_cons, texts, skipSpace_cons rfl]
      change members textMember [] (member m.1 (quote m.2) ++ (furtherMembers ms ++ ['}'])) = _
      rw [members, member_append, membersFrom, nextKey_first]
      dsimp only [bind, Except.bind]
      rw [textMember_written, String.ofList_toList]
      dsimp only
      rw [membersFrom_furtherMembers]
      · rfl
      · simp only [List.length_append, List.length_cons]
        omega
  rw [texts?, document, hread]
  rfl

/-- No control character is left in an object of strings. -/
theorem le_of_mem_textObject {c : Char} {ms : List (String × Text)} (h : c ∈ textObject ms) :
    0x20 ≤ c.toNat := by
  have hmember : ∀ m : String × Text, c ∈ member m.1 (quote m.2) → 0x20 ≤ c.toNat := by
    intro m hm
    simp only [member, List.mem_append, List.mem_singleton] at hm
    obtain (hkey | rfl) | hvalue := hm
    · exact le_of_mem_quote hkey
    · decide
    · exact le_of_mem_quote hvalue
  cases ms with
  | nil =>
    change c ∈ ['{', '}'] at h
    simp only [List.mem_cons, List.not_mem_nil, or_false] at h
    obtain rfl | rfl := h <;> decide
  | cons m ms =>
    rw [textObject_cons] at h
    simp only [furtherMembers, List.mem_cons, List.mem_append, List.mem_flatMap, List.not_mem_nil,
      or_false] at h
    obtain rfl | hfirst | ⟨n, -, rfl | hn⟩ | rfl := h
    · decide
    · exact hmember m hfirst
    · decide
    · exact hmember n hn
    · decide

end BundleHardening.Json
