import BundleHardening.Proofs.Json.Quoted

/-!
# Lists of strings

`textList?` reads a list of strings, with space wherever it may stand, and gives back the strings that were
written (`textList?_quoteAll`).
-/

set_option autoImplicit false

namespace BundleHardening.Json

/-- Reads the strings of a list behind its opening bracket, and the closing bracket, behind those that were
read before.  Each step uses up a character. -/
def textsFrom : Nat → Bool → List Text → Reader (List Text)
  | 0, _, _, _ => .error .cutShort
  | fuel + 1, first, found, t => do
    let (more, t) ← nextMember first t
    if more then
      let (value, t) ← stringValue t
      textsFrom fuel false (found ++ [value]) t
    else
      let ((), t) ← endArray t
      .ok (found, t)

/-- Reads a list of strings. -/
def textList : Reader (List Text) := fun t =>
  match skipSpace t with
  | '[' :: t => textsFrom (t.length + 1) true [] t
  | t => .error (wrongShape t)

/-- The list of strings that a text holds. -/
def textList? (t : Text) : Except Fault (List Text) :=
  document textList t

variable {first : Bool} {t rest : Text}

/-- The first string of a list is read where it stands. -/
theorem nextMember_first : nextMember true (quote t ++ rest) = .ok (true, quote t ++ rest) := by
  rw [quote_append, nextMember, skipSpace_cons rfl]
  rfl

/-- A further string is read behind a comma. -/
theorem nextMember_further :
    nextMember false (',' :: (quote t ++ rest)) = .ok (true, quote t ++ rest) := by
  rw [quote_append, nextMember, skipSpace_cons rfl]
  rfl

/-- A closing bracket ends the list. -/
theorem nextMember_end : nextMember first (']' :: rest) = .ok (false, ']' :: rest) := by
  rw [nextMember, skipSpace_cons rfl]
  rfl

theorem endArray_end : endArray (']' :: rest) = .ok ((), rest) := by
  rw [endArray, skipSpace_cons rfl]
  rfl

/-- The strings behind the first, each with its comma. -/
def furtherTexts (ts : List Text) : Text :=
  ts.flatMap fun t => ',' :: quote t

/-- The written form of a list that is not empty. -/
theorem quoteAll_cons (t : Text) (ts : List Text) :
    quoteAll (t :: ts) = '[' :: (quote t ++ (furtherTexts ts ++ [']'])) := by
  rw [quoteAll, List.map_cons, joined_cons, List.flatMap_map, furtherTexts]
  simp

/-- Each further string takes up a character at least. -/
theorem length_le_length_furtherTexts (ts : List Text) : ts.length ≤ (furtherTexts ts).length := by
  induction ts with
  | nil => exact Nat.zero_le _
  | cons t ts ih =>
    rw [furtherTexts, List.flatMap_cons, List.length_append, List.length_cons, List.length_cons,
      ← furtherTexts]
    omega

/-- The strings behind the first are read behind those that were read before. -/
theorem textsFrom_furtherTexts {fuel : Nat} (found ts : List Text) (hfuel : ts.length < fuel) :
    textsFrom fuel false found (furtherTexts ts ++ ']' :: rest) = .ok (found ++ ts, rest) := by
  induction ts generalizing fuel found with
  | nil =>
    obtain ⟨fuel, rfl⟩ := Nat.exists_eq_add_of_lt hfuel
    rw [furtherTexts, List.flatMap_nil, List.nil_append, List.append_nil, textsFrom, nextMember_end]
    dsimp only [bind, Except.bind]
    rw [if_neg Bool.false_ne_true, endArray_end]
  | cons t ts ih =>
    obtain ⟨fuel, rfl⟩ := Nat.exists_eq_add_of_lt hfuel
    have hwritten : furtherTexts (t :: ts) ++ ']' :: rest =
        ',' :: (quote t ++ (furtherTexts ts ++ ']' :: rest)) := by
      simp [furtherTexts]
    rw [hwritten, textsFrom, nextMember_further]
    dsimp only [bind, Except.bind]
    rw [if_pos rfl, stringValue_quote]
    dsimp only
    rw [ih _ (by simp at hfuel ⊢; omega), List.append_assoc, List.singleton_append]

/-- What was written as a list of strings is read back. -/
theorem textList?_quoteAll (ts : List Text) : textList? (quoteAll ts) = .ok ts := by
  have hread : textList (quoteAll ts) = .ok (ts, []) := by
    cases ts with
    | nil => rfl
    | cons t ts =>
      have hlength := length_le_length_furtherTexts ts
      rw [quoteAll_cons, textList, skipSpace_cons rfl]
      change textsFrom _ true [] (quote t ++ (furtherTexts ts ++ [']'])) = _
      rw [textsFrom, nextMember_first]
      dsimp only [bind, Except.bind]
      rw [if_pos rfl, stringValue_quote]
      dsimp only
      rw [textsFrom_furtherTexts]
      · rfl
      · simp only [List.length_append, List.length_cons]
        omega
  rw [textList?, document, hread]
  rfl

example : (textList? "[ \"m\" , \"\\u006f\" ]".toList).toOption = some ["m".toList, "o".toList] := by
  decide +kernel

end BundleHardening.Json
