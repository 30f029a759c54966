import BundleHardening.Proofs.Pattern.SharedEscape

/-!
# Classes that both dialects read alike

The extended dialect does not read a class itself.  It writes the class anew, with the escapes of the linear
dialect in the place of its own, and has that read.  The spelling it writes and the one it found are read in
the same steps, so that what is read of the one is read of the other: a class that the extended dialect has
read is read by the linear dialect as it stands.
-/

set_option autoImplicit false

namespace BundleHardening

open Pattern (looksNamed passCaret passBracket Clear)

namespace Class

/-- The text `spelled` is a class text written anew, of which `t` is what was found, up to the bracket that
closes the class; `after` follows that bracket. -/
inductive Respelled (after : Text) : (spelled t : Text) → Prop where
  /-- The bracket that closes the class. -/
  | close : Respelled after [']'] (']' :: after)
  /-- A character that is kept. -/
  | kept {c : Char} {spelled t : Text} : c ≠ '\\' → c ≠ '[' → Respelled after spelled t →
      Respelled after (c :: spelled) (c :: t)
  /-- A bracket that opens a class in the class, or a named set. -/
  | bracket {spelled t : Text} : looksNamed t = false → Respelled after spelled t →
      Respelled after ('[' :: spelled) ('[' :: t)
  /-- An escape in whose place its character stands. -/
  | literal {c : Char} {spelled t rest : Text} : Escape.isMeta c = false → rest <:+ t →
      (∀ f : Flags, f.Plain → Escape.read f t = some (.literal c, rest)) →
        Respelled after spelled rest → Respelled after (c :: spelled) ('\\' :: t)
  /-- An escape in whose place its character stands behind a backslash. -/
  | sign {c : Char} {spelled t rest : Text} : Escape.isMeta c = true → rest <:+ t →
      (∀ f : Flags, f.Plain → Escape.read f t = some (.literal c, rest)) →
        Respelled after spelled rest → Respelled after ('\\' :: c :: spelled) ('\\' :: t)
  /-- A written set that is kept. -/
  | member {m spelled t : Text} : Escape.Settled m → Respelled after spelled t →
      Respelled after ('\\' :: (m ++ spelled)) ('\\' :: (m ++ t))

/-- What is left of both spellings, up to the end of the class and behind it. -/
def Left (after spelled t : Text) : Prop :=
  spelled = [] ∧ t = after ∨ Respelled after spelled t

variable {after spelled spelled' t t' rest : Text} {f f' : Flags} {c : Char} {set : Class}

namespace Respelled

/-- A sign that is no backslash stands in both spellings or in neither. -/
theorem of_sign (h : Respelled after (c :: spelled) t) (hmeta : Escape.isMeta c = true)
    (hc : c ≠ '\\') : ∃ t', t = c :: t' ∧ Left after spelled t' ∧
      (c ≠ ']' → Respelled after spelled t') := by
  cases h with
  | close => exact ⟨_, rfl, .inl ⟨rfl, rfl⟩, fun h => absurd rfl h⟩
  | kept _ _ h => exact ⟨_, rfl, .inr h, fun _ => h⟩
  | bracket _ h => exact ⟨_, rfl, .inr h, fun _ => h⟩
  | literal hnot _ _ _ => exact absurd hmeta (by simp [hnot])
  | sign _ _ _ _ => exact absurd rfl hc
  | member _ _ => exact absurd rfl hc

/-- What is kept stands in both spellings. -/
theorem of_kept (h : Respelled after spelled (c :: t)) (hc : c ≠ '\\') :
    ∃ spelled', spelled = c :: spelled' ∧ Left after spelled' t ∧
      (c ≠ ']' → Respelled after spelled' t) := by
  cases h with
  | close => exact ⟨_, rfl, .inl ⟨rfl, rfl⟩, fun h => absurd rfl h⟩
  | kept _ _ h => exact ⟨_, rfl, .inr h, fun _ => h⟩
  | bracket _ h => exact ⟨_, rfl, .inr h, fun _ => h⟩
  | literal _ _ _ _ => exact absurd rfl hc
  | sign _ _ _ _ => exact absurd rfl hc
  | member _ _ => exact absurd rfl hc

/-- A text of characters that are kept. -/
theorem of_keptText {start : Text} (hstart : ∀ c ∈ start, c ≠ '\\' ∧ c ≠ ']')
    (h : Respelled after spelled (start ++ t)) :
    ∃ spelled', spelled = start ++ spelled' ∧ Respelled after spelled' t := by
  induction start generalizing spelled with
  | nil => exact ⟨spelled, rfl, h⟩
  | cons c start ih =>
    obtain ⟨⟨hbackslash, hbracket⟩, hstart⟩ := List.forall_mem_cons.mp hstart
    obtain ⟨spelled, rfl, -, hrest⟩ := h.of_kept hbackslash
    obtain ⟨spelled', rfl, h'⟩ := ih hstart (hrest hbracket)
    exact ⟨spelled', rfl, h'⟩

theorem keptText {start : Text} (hstart : ∀ c ∈ start, c ≠ '\\' ∧ c ≠ '[')
    (h : Respelled after spelled t) : Respelled after (start ++ spelled) (start ++ t) := by
  induction start with
  | nil => exact h
  | cons c start ih =>
    obtain ⟨⟨hbackslash, hbracket⟩, hstart⟩ := List.forall_mem_cons.mp hstart
    exact .kept hbackslash hbracket (ih hstart)

theorem head?_iff (h : Respelled after spelled t) (hmeta : Escape.isMeta c = true) (hc : c ≠ '\\') :
    spelled.head? = some c ↔ t.head? = some c := by
  constructor
  · intro hhead
    obtain ⟨_, rfl⟩ := List.head?_eq_some_iff.mp hhead
    obtain ⟨_, rfl, -⟩ := h.of_sign hmeta hc
    rfl
  · intro hhead
    obtain ⟨_, rfl⟩ := List.head?_eq_some_iff.mp hhead
    obtain ⟨_, rfl, -⟩ := h.of_kept hc
    rfl

theorem ne_nil (h : Respelled after spelled t) : t ≠ [] := by
  cases h <;> exact List.cons_ne_nil _ _

/-- What follows the class is the end of what was found. -/
theorem suffix (h : Respelled after spelled t) : after <:+ t := by
  induction h with
  | close => exact List.suffix_cons _ _
  | kept _ _ _ ih => exact ih.trans (List.suffix_cons _ _)
  | bracket _ _ ih => exact ih.trans (List.suffix_cons _ _)
  | literal _ hsuffix _ _ ih => exact ih.trans (hsuffix.trans (List.suffix_cons _ _))
  | sign _ hsuffix _ _ ih => exact ih.trans (hsuffix.trans (List.suffix_cons _ _))
  | member _ _ ih =>
    exact ih.trans ((List.suffix_append _ _).trans (List.suffix_cons _ _))

end Respelled

/-! ## Members -/

/-- The same character, or both a class. -/
def Alike : Escape → Escape → Prop
  | .literal c, .literal d => c = d
  | .set _, .set _ => True
  | _, _ => False

theorem readItem_of_ne (f : Flags) (hc : c ≠ '\\') (t : Text) :
    readItem f (c :: t) = some (.literal c, t) := by
  rw [readItem]
  exact fun heq => hc heq

theorem readItem_respelled (hf : f.Plain) (hf' : f'.Plain) (h : Respelled after spelled t) {e : Escape}
    (hread : readItem f spelled = some (e, spelled')) : ∃ e' t',
      readItem f' t = some (e', t') ∧ Alike e e' ∧ Left after spelled' t' ∧ t'.length < t.length := by
  cases h with
  | close =>
    cases hread
    exact ⟨_, _, rfl, rfl, .inl ⟨rfl, rfl⟩, Nat.lt_succ_self _⟩
  | kept hbackslash _ h =>
    rw [readItem_of_ne f hbackslash] at hread
    cases hread
    exact ⟨_, _, readItem_of_ne f' hbackslash _, rfl, .inr h, Nat.lt_succ_self _⟩
  | bracket _ h =>
    cases hread
    exact ⟨_, _, rfl, rfl, .inr h, Nat.lt_succ_self _⟩
  | literal hmeta hsuffix hescape h =>
    rw [readItem_of_ne f fun heq => by rw [heq] at hmeta; cases hmeta] at hread
    cases hread
    exact ⟨_, _, hescape f' hf', rfl, .inr h, Nat.lt_succ_of_le hsuffix.length_le⟩
  | sign hmeta hsuffix hescape h =>
    rw [readItem, Escape.read_of_isMeta f hmeta] at hread
    cases hread
    exact ⟨_, _, hescape f' hf', rfl, .inr h, Nat.lt_succ_of_le hsuffix.length_le⟩
  | member hsettled h =>
    rw [readItem] at hread
    obtain hnone | hsome := hsettled
    · rw [hnone f hf] at hread
      cases hread
    · obtain ⟨c, hc⟩ := hsome f hf _
      obtain ⟨c', hc'⟩ := hsome f' hf' _
      rw [hc] at hread
      cases hread
      exact ⟨_, _, hc', trivial, .inr h,
        Nat.lt_succ_of_le (List.suffix_append _ _).length_le⟩

theorem ofItem_alike (hf' : f'.Plain) {e e' : Escape} (halike : Alike e e')
    (h : (ofItem f e).isSome) : ∃ c, ofItem f' e' = some c := by
  cases e <;> cases e' <;> simp_all [Alike, ofItem, hf'.unicode]

theorem ofRange_alike (hf' : f'.Plain) {e e' last last' : Escape} (halike : Alike e e')
    (hlast : Alike last last') (h : (ofRange f e last).isSome) : ∃ c, ofRange f' e' last' = some c := by
  cases e <;> cases e' <;> cases last <;> cases last' <;>
    simp_all [Alike, ofRange, hf'.unicode]

/-- A member of the one spelling is one of the other. -/
theorem readMember_respelled (hf : f.Plain) (hf' : f'.Plain) (h : Respelled after spelled t)
    (hread : readMember f spelled = some (set, spelled')) : ∃ set' t',
      readMember f' t = some (set', t') ∧ Left after spelled' t' ∧ t'.length < t.length := by
  simp only [readMember, hf.skip, Option.bind_eq_bind] at hread
  obtain ⟨⟨first, behind⟩, hfirst, hread⟩ := Option.bind_eq_some_iff.mp hread
  obtain ⟨first', t₁, hfirst', halike, hleft, hshorter⟩ := readItem_respelled hf hf' h hfirst
  simp only [readMember, hf'.skip, hfirst', Option.bind_eq_bind, Option.bind_some]
  dsimp only at hread
  split at hread
  · cases hread
  · next more =>
    obtain ⟨hnil, -⟩ | hleft := hleft
    · cases hnil
    obtain ⟨more', rfl, -, hmore⟩ := hleft.of_sign rfl (by decide)
    have hmore := hmore (by decide)
    have hnext : (more.head? == some ']' || more.head? == some '-') =
        (more'.head? == some ']' || more'.head? == some '-') := by
      rw [Bool.eq_iff_iff]
      simp [hmore.head?_iff (c := ']') rfl (by decide), hmore.head?_iff (c := '-') rfl (by decide)]
    simp only [hnext] at hread
    split at hread
    · next hend =>
      obtain ⟨c, hc, heq⟩ := Option.bind_eq_some_iff.mp hread
      cases heq
      obtain ⟨c', hc'⟩ := ofItem_alike hf' halike (Option.isSome_of_eq_some hc)
      exact ⟨c', _, by simp only [hend, if_true, hc']; rfl, .inr hleft, hshorter⟩
    · next hrange =>
      obtain ⟨⟨last, behindLast⟩, hlast, hread⟩ := Option.bind_eq_some_iff.mp hread
      obtain ⟨c, hc, heq⟩ := Option.bind_eq_some_iff.mp hread
      cases heq
      obtain ⟨last', t₂, hlast', halikeLast, hleftLast, hshorterLast⟩ :=
        readItem_respelled hf hf' hmore hlast
      obtain ⟨c', hc'⟩ := ofRange_alike hf' halike halikeLast (Option.isSome_of_eq_some hc)
      refine ⟨c', t₂, ?_, hleftLast, by simp only [List.length_cons] at hshorter; omega⟩
      simp only [hrange, Bool.false_eq_true, if_false, hlast', hc', Option.bind_some]
      rfl
  · next hnil hhyphen =>
    obtain ⟨rfl, -⟩ | hleft := hleft
    · exact (hnil rfl).elim
    obtain ⟨c, hc, heq⟩ := Option.bind_eq_some_iff.mp hread
    cases heq
    obtain ⟨c', hc'⟩ := ofItem_alike hf' halike (Option.isSome_of_eq_some hc)
    refine ⟨c', t₁, ?_, .inr hleft, hshorter⟩
    split
    · exact absurd rfl hleft.ne_nil
    · obtain ⟨_, rfl, -⟩ := hleft.of_kept (by decide)
      exact (hhyphen _ rfl).elim
    · rw [hc']
      rfl

/-! ## Named sets -/

/-- The names of sets are written in letters. -/
theorem isAlpha_of_posix? {name : Text} (h : posix? (String.ofList name) = some set) :
    ∀ d ∈ name, d.isAlpha = true := by
  have hname {s : String} (heq : String.ofList name = s) : name = s.toList := by
    rw [← heq, String.toList_ofList]
  unfold posix? at h
  split at h
  case h_15 => cases h
  all_goals
    next heq =>
      rw [hname heq]
      exact List.all_eq_true.mp (by decide)

theorem readNamed_of_posix? {name : Text} (h : posix? (String.ofList name) = some set) (f : Flags)
    (rest : Text) :
    readNamed f (':' :: (name ++ ':' :: ']' :: rest)) = some (f.close false set, rest) ∧
      readNamed f (':' :: '^' :: (name ++ ':' :: ']' :: rest)) = some (f.close true set, rest) := by
  have hcolon : ':' ∉ name := fun hmem => absurd (isAlpha_of_posix? h _ hmem) (by decide)
  have hcaret : ∀ u, name ++ ':' :: ']' :: rest ≠ '^' :: u := by
    intro u heq
    cases name with
    | nil => cases heq
    | cons d name =>
      cases heq
      exact absurd (isAlpha_of_posix? h _ List.mem_cons_self) (by decide)
  have hdrop := Text.dropWhile_ne_append hcolon (']' :: rest)
  have htake := Text.takeWhile_ne_append hcolon (']' :: rest)
  constructor
  · rw [readNamed]
    · simp only [htake, hdrop, h, Option.map_some]
    · exact hcaret
  · simp only [readNamed, htake, hdrop, h, Option.map_some]

/-- A named set is a name in colons, which may be negated. -/
theorem exists_of_readNamed {set? : Option Class} (h : readNamed {} t = some (set?, rest)) :
    ∃ name set, posix? (String.ofList name) = some set ∧
      (t = ':' :: (name ++ ':' :: ']' :: rest) ∨ t = ':' :: '^' :: (name ++ ':' :: ']' :: rest)) := by
  have hwhole {u rest : Text} (hdrop : u.dropWhile (· != ':') = ':' :: ']' :: rest) :
      u = u.takeWhile (· != ':') ++ ':' :: ']' :: rest := by
    rw [← hdrop, List.takeWhile_append_dropWhile]
  obtain ⟨t, rfl⟩ : ∃ u, t = ':' :: u := by
    unfold readNamed at h
    split at h
    · exact ⟨_, rfl⟩
    · cases h
  by_cases hcaret : ∃ u, t = '^' :: u
  · obtain ⟨u, rfl⟩ := hcaret
    simp only [readNamed] at h
    split at h
    · next hdrop =>
      obtain ⟨set, hset, heq⟩ := Option.map_eq_some_iff.mp h
      cases heq
      exact ⟨_, set, hset, .inr (congrArg (':' :: '^' :: ·) (hwhole hdrop))⟩
    · cases h
  · rw [readNamed] at h
    · split at h
      · next hdrop =>
        obtain ⟨set, hset, heq⟩ := Option.map_eq_some_iff.mp h
        cases heq
        exact ⟨_, set, hset, .inl (congrArg (':' :: ·) (hwhole hdrop))⟩
      · cases h
    · exact fun u heq => hcaret ⟨u, heq⟩

/-- A named set is one in all these modes, whatever follows it. -/
theorem readNamed_eq_some {set? : Option Class} (h : readNamed {} t = some (set?, rest)) :
    ∃ name, t = name ++ ']' :: rest ∧ (∀ d ∈ name, d ≠ '\\' ∧ d ≠ ']') ∧
      ∀ f : Flags, f.Plain → ∀ rest, ∃ c,
        readNamed f (name ++ ']' :: rest) = some (some c, rest) := by
  obtain ⟨name, set, hset, ht⟩ := exists_of_readNamed h
  have hname : ∀ d ∈ name, d ≠ '\\' ∧ d ≠ ']' := by
    intro d hd
    have halpha := isAlpha_of_posix? hset d hd
    constructor <;> (rintro rfl; cases halpha)
  obtain rfl | rfl := ht
  · refine ⟨':' :: (name ++ [':']), by simp, ?_, fun f hf rest => ?_⟩
    · simp only [List.forall_mem_cons, List.forall_mem_append]
      exact ⟨by decide, hname, by simp⟩
    · obtain ⟨c, hc⟩ := hf.close false set
      exact ⟨c, by simpa [hc] using (readNamed_of_posix? hset f rest).1⟩
  · refine ⟨':' :: '^' :: (name ++ [':']), by simp, ?_, fun f hf rest => ?_⟩
    · simp only [List.forall_mem_cons, List.forall_mem_append]
      exact ⟨by decide, by decide, hname, by simp⟩
    · obtain ⟨c, hc⟩ := hf.close true set
      exact ⟨c, by simpa [hc] using (readNamed_of_posix? hset f rest).2⟩

theorem readNamed_of_ne (f : Flags) (h : ∀ u, t ≠ ':' :: u) : readNamed f t = none := by
  unfold readNamed
  split
  · exact absurd rfl (h _)
  · rfl

/-- Behind an opening bracket both spellings have a named set, or neither has. -/
theorem readNamed_respelled (hf : f.Plain) (hf' : f'.Plain) (hlooks : looksNamed t = false)
    (h : Respelled after spelled t) :
    (readNamed f spelled = none ∧ readNamed f' t = none) ∨
      ∃ set set' spelled' t', readNamed f spelled = some (some set, spelled') ∧
        readNamed f' t = some (some set', t') ∧ Left after spelled' t' ∧ t'.length < t.length := by
  cases hnamed : readNamed {} t with
  | some found =>
    right
    obtain ⟨name, rfl, hname, hread⟩ := readNamed_eq_some hnamed
    obtain ⟨behind, rfl, hbehind⟩ := h.of_keptText hname
    obtain ⟨spelled', rfl, hleft, -⟩ := hbehind.of_kept (by decide)
    obtain ⟨set, hset⟩ := hread f hf spelled'
    obtain ⟨set', hset'⟩ := hread f' hf' found.2
    refine ⟨set, set', spelled', found.2, hset, hset', hleft, ?_⟩
    simp only [List.length_append, List.length_cons]
    omega
  | none =>
    left
    simp only [looksNamed, hnamed, Option.isNone_none, Bool.true_and] at hlooks
    constructor
    · refine readNamed_of_ne f fun u heq => ?_
      subst heq
      cases h with
      | kept _ _ _ => cases hlooks
      | literal _ _ hescape _ =>
        simp [hescape {} ⟨rfl, rfl⟩] at hlooks
    · refine readNamed_of_ne f' fun u heq => ?_
      subst heq
      cases hlooks

/-! ## The beginning of a class -/

/-- What is left behind the beginning of a class: a sign of negation, a closing bracket in first place, or
hyphens. -/
def behindOpening (t : Text) : Text :=
  match passCaret t with
  | ']' :: t => t
  | t => t.dropWhile (· == '-')

theorem readHyphens_of_ne (f : Flags) (h : ∀ u, t ≠ '-' :: u) (fuel : Nat) (p : Partial) :
    readHyphens f fuel p t = (p, t) := by
  unfold readHyphens
  split
  · exact absurd rfl (h _)
  · rfl

theorem readHyphens_text (hf : f.Plain) {fuel : Nat} (hfuel : t.length ≤ fuel) (p : Partial) :
    (readHyphens f fuel p t).2 = t.dropWhile (· == '-') := by
  induction t generalizing fuel p with
  | nil => rw [readHyphens_of_ne f fun u heq => by cases heq]; rfl
  | cons c t ih =>
    by_cases hc : c = '-'
    · subst hc
      cases fuel with
      | zero => cases hfuel
      | succ fuel =>
        rw [readHyphens, hf.skip, ih (Nat.le_of_succ_le_succ hfuel)]
        rfl
    · rw [readHyphens_of_ne f fun u heq => hc (List.cons.inj heq).1, List.dropWhile_cons_of_neg]
      simpa using hc

theorem readHyphens_items (f : Flags) (fuel : Nat) {p : Partial} (hp : p.items ≠ []) :
    (readHyphens f fuel p t).1.items ≠ [] := by
  induction fuel generalizing p t with
  | zero => exact hp
  | succ fuel ih =>
    unfold readHyphens
    split
    · next hsucc =>
      cases hsucc
      exact ih (List.cons_ne_nil _ _)
    · exact hp

/-- What is left behind the hyphens, or a bracket where there are none. -/
theorem readOpening_behind (hf : f.Plain) (negated : Bool) (t : Text) :
    (match (readHyphens f t.length {} t).1.items, (readHyphens f t.length {} t).2 with
      | [], ']' :: u => (negated, (readHyphens f t.length {} t).1.add (single ']'), u)
      | _, u => (negated, (readHyphens f t.length {} t).1, u)).2.2 =
      match t with
      | ']' :: u => u
      | u => u.dropWhile (· == '-') := by
  have htext := readHyphens_text hf (Nat.le_refl t.length) {}
  by_cases hhyphen : ∃ u, t = '-' :: u
  · obtain ⟨u, rfl⟩ := hhyphen
    have hitems : (readHyphens f ('-' :: u).length {} ('-' :: u)).1.items ≠ [] := by
      rw [List.length_cons, readHyphens]
      exact readHyphens_items f _ (List.cons_ne_nil _ _)
    split
    · next hnil _ => exact absurd hnil hitems
    · exact htext
  · rw [readHyphens_of_ne f fun u heq => hhyphen ⟨u, heq⟩] at htext ⊢
    cases t with
    | nil => rfl
    | cons c t =>
      by_cases hc : c = ']'
      · subst hc
        rfl
      · simpa [hc] using htext

theorem readOpening_text (hf : f.Plain) (t : Text) : (readOpening f t).2.2 = behindOpening t := by
  cases t with
  | nil =>
    simp only [readOpening, hf.skip]
    exact readOpening_behind hf false []
  | cons c t =>
    by_cases hc : c = '^'
    · subst hc
      simp only [readOpening, hf.skip]
      exact readOpening_behind hf true t
    · have hcaret : passCaret (c :: t) = c :: t := by simp [passCaret, hc]
      rw [readOpening, hf.skip, behindOpening, hcaret]
      split
      next heq =>
        split at heq
        · next hsign => exact absurd (List.cons.inj hsign).1 hc
        · cases heq
          simp only [hf.skip]
          exact readOpening_behind hf false (c :: t)

theorem Respelled.passCaret (h : Respelled after spelled t) :
    Respelled after (passCaret spelled) (passCaret t) := by
  unfold Pattern.passCaret
  split
  · obtain ⟨t, rfl, -, hrest⟩ := h.of_sign rfl (by decide)
    exact hrest (by decide)
  · next hspelled =>
    split
    · obtain ⟨_, rfl, -⟩ := h.of_kept (by decide)
      exact (hspelled _ rfl).elim
    · exact h

theorem Respelled.dropHyphens (h : Respelled after spelled t) :
    Respelled after (spelled.dropWhile (· == '-')) (t.dropWhile (· == '-')) := by
  induction h with
  | @kept c _ _ hbackslash hbracket h ih =>
    by_cases hc : c = '-'
    · simpa [hc] using ih
    · simpa [hc] using Respelled.kept hbackslash hbracket h
  | close => simpa using Respelled.close
  | bracket hlooks h _ => simpa using Respelled.bracket hlooks h
  | @literal c _ _ _ hmeta hsuffix hescape h _ =>
    have hc : c ≠ '-' := by
      rintro rfl
      cases hmeta
    simpa [hc] using Respelled.literal hmeta hsuffix hescape h
  | sign hmeta hsuffix hescape h _ => simpa using Respelled.sign hmeta hsuffix hescape h
  | member hsettled h _ => simpa using Respelled.member hsettled h

/-- Both spellings begin alike. -/
theorem Respelled.behindOpening (h : Respelled after spelled t) :
    Left after (behindOpening spelled) (behindOpening t) := by
  have h := h.passCaret
  unfold Class.behindOpening
  split
  · next hspelled =>
    rw [hspelled] at h
    obtain ⟨_, ht, hleft, -⟩ := h.of_sign rfl (by decide)
    rw [ht]
    exact hleft
  · next hspelled =>
    split
    · next ht =>
      rw [ht] at h
      obtain ⟨_, heq, -⟩ := h.of_kept (by decide)
      exact (hspelled _ heq).elim
    · exact .inr h.dropHyphens

theorem length_behindOpening_le (t : Text) : (behindOpening t).length ≤ t.length := by
  have hcaret := (Pattern.passCaret_suffix t).length_le
  unfold behindOpening
  split
  · next heq =>
    rw [heq, List.length_cons] at hcaret
    omega
  · exact (List.dropWhile_suffix _).length_le.trans hcaret

/-! ## The whole class -/

/-- What begins a class in the class or ends it, and the signs between lists of members. -/
def classSigns : List Text :=
  [['['], [']'], ['&', '&'], ['-', '-'], ['~', '~']]

/-- Where no such sign stands, a member is read. -/
theorem readBody_member (hf : f.Plain) (hne : t ≠ []) (hsigns : ∀ start ∈ classSigns, ¬ start <+: t)
    (fuel : Nat) (negated : Bool) (p : Partial) : readBody f (fuel + 1) negated p t =
      (readMember f t).bind fun (c, t) => readBody f fuel negated (p.add c) t := by
  rw [readBody, hf.skip]
  split
  case h_1 => exact absurd rfl hne
  case h_2 => exact absurd ⟨_, rfl⟩ (hsigns ['['] (by decide))
  case h_3 => exact absurd ⟨_, rfl⟩ (hsigns [']'] (by decide))
  case h_4 => exact absurd ⟨_, rfl⟩ (hsigns ['&', '&'] (by decide))
  case h_5 => exact absurd ⟨_, rfl⟩ (hsigns ['-', '-'] (by decide))
  case h_6 => exact absurd ⟨_, rfl⟩ (hsigns ['~', '~'] (by decide))
  case h_7 => rfl

theorem Respelled.no_sign (h : Respelled after spelled t)
    (hsigns : ∀ start ∈ classSigns, ¬ start <+: spelled) : ∀ start ∈ classSigns, ¬ start <+: t := by
  rintro start hstart ⟨u, rfl⟩
  by_cases hclosing : start = [']']
  · subst hclosing
    obtain ⟨_, rfl, -⟩ := h.of_kept (by decide)
    exact hsigns _ hstart ⟨_, rfl⟩
  · have hkept : ∀ c ∈ start, c ≠ '\\' ∧ c ≠ ']' := by
      simp only [classSigns, List.mem_cons, List.not_mem_nil, or_false, hclosing, false_or] at hstart
      rcases hstart with rfl | rfl | rfl | rfl <;> simp
    obtain ⟨_, rfl, -⟩ := h.of_keptText hkept
    exact hsigns _ hstart ⟨_, rfl⟩

theorem Respelled.of_doubled (h : Respelled after (c :: c :: spelled) t)
    (hmeta : Escape.isMeta c = true) (hc : c ≠ '\\' ∧ c ≠ ']') :
    ∃ t', t = c :: c :: t' ∧ Respelled after spelled t' := by
  obtain ⟨t, rfl, -, h⟩ := h.of_sign hmeta hc.1
  obtain ⟨t, rfl, -, h⟩ := (h hc.2).of_sign hmeta hc.1
  exact ⟨t, rfl, h hc.2⟩

theorem Respelled.of_bracket (h : Respelled after ('[' :: spelled) t) :
    ∃ t', t = '[' :: t' ∧ looksNamed t' = false ∧ Respelled after spelled t' := by
  cases h with
  | kept _ hbracket _ => exact absurd rfl hbracket
  | bracket hlooks h => exact ⟨_, rfl, hlooks, h⟩
  | literal hmeta _ _ _ => cases hmeta

/-- What is read of the one spelling is read of the other. -/
theorem readBody_respelled (hf : f.Plain) (hf' : f'.Plain) {fuel fuel' : Nat} {negated : Bool}
    {p : Partial} (hread : readBody f fuel negated p spelled = some (set, spelled'))
    (h : Left after spelled t) (hfuel : t.length < fuel') (negated' : Bool) (p' : Partial) :
    ∃ set' t', readBody f' fuel' negated' p' t = some (set', t') ∧ Left after spelled' t' ∧
      t'.length < t.length := by
  induction fuel generalizing fuel' negated negated' p p' spelled spelled' t set with
  | zero => cases hread
  | succ fuel ih =>
    obtain ⟨rfl, -⟩ | h := h
    · simp [readBody, hf.skip] at hread
    cases fuel' with
    | zero => cases hfuel
    | succ fuel' =>
    have hstep {spelled t₁ : Text} {negated negated' : Bool} {p p' : Partial}
        (hread : readBody f fuel negated p spelled = some (set, spelled')) (h : Left after spelled t₁)
        (hshorter : t₁.length < t.length) : ∃ set' t',
          readBody f' fuel' negated' p' t₁ = some (set', t') ∧ Left after spelled' t' ∧
            t'.length < t.length := by
      have hfuel : t₁.length < fuel' := by omega
      obtain ⟨set', t', hread', hleft, hlength⟩ := ih hread h hfuel negated' p'
      exact ⟨set', t', hread', hleft, hlength.trans hshorter⟩
    unfold readBody at hread
    rw [hf.skip] at hread
    split at hread
    case h_1 => cases hread
    case h_2 =>
      obtain ⟨t, rfl, hlooks, h⟩ := h.of_bracket
      obtain ⟨hnone, hnone'⟩ | ⟨inner, inner', w, u, hnamed, hnamed', hleft, hlength⟩ :=
        readNamed_respelled hf hf' hlooks h
      · simp only [hnone, Option.bind_eq_bind] at hread
        obtain ⟨⟨inner, w⟩, hinner, hread⟩ := Option.bind_eq_some_iff.mp hread
        simp only [readOpening_text hf] at hinner
        have hle := length_behindOpening_le t
        have hfuel : (behindOpening t).length < fuel' := by
          simp only [List.length_cons] at hfuel
          omega
        obtain ⟨inner', u, hinner', hleft, hlength⟩ := ih hinner h.behindOpening hfuel
          (readOpening f' t).1 (readOpening f' t).2.1
        simp only [readBody, hf'.skip, hnone', Option.bind_eq_bind, readOpening_text hf', hinner',
          Option.bind_some]
        exact hstep hread hleft (by simp only [List.length_cons]; omega)
      · simp only [hnamed, Option.bind_some] at hread
        simp only [readBody, hf'.skip, hnamed', Option.bind_some]
        exact hstep hread hleft (hlength.trans (Nat.lt_succ_self _))
    case h_3 =>
      obtain ⟨t, rfl, hleft, -⟩ := h.of_sign rfl (by decide)
      obtain ⟨_, -, heq⟩ := Option.map_eq_some_iff.mp hread
      cases heq
      obtain ⟨set', hclose⟩ := hf'.close negated' p'.value
      exact ⟨set', t, by simp only [readBody, hf'.skip, hclose, Option.map_some], hleft,
        Nat.lt_succ_self _⟩
    case h_4 | h_5 | h_6 =>
      obtain ⟨t, rfl, hrest⟩ := h.of_doubled (by decide) (by decide)
      simp only [readBody, hf'.skip]
      exact hstep hread (.inr hrest) (by simp only [List.length_cons]; omega)
    case h_7 hnil hopen hclose hboth hfirst hone =>
      have hsigns : ∀ start ∈ classSigns, ¬ start <+: spelled := by
        rintro start hstart ⟨u, rfl⟩
        simp only [classSigns, List.mem_cons, List.not_mem_nil, or_false] at hstart
        rcases hstart with rfl | rfl | rfl | rfl | rfl
        · exact hopen _ rfl
        · exact hclose _ rfl
        · exact hboth _ rfl
        · exact hfirst _ rfl
        · exact hone _ rfl
      obtain ⟨⟨c, behind⟩, hmember, hread⟩ := Option.bind_eq_some_iff.mp hread
      obtain ⟨c', t₁, hmember', hleft, hshorter⟩ := readMember_respelled hf hf' h hmember
      rw [readBody_member hf' h.ne_nil (h.no_sign hsigns), hmember', Option.bind_some]
      exact hstep hread hleft hshorter

/-- A class that has been read in the one spelling is read in the other. -/
theorem read_respelled (hf : f.Plain) (hf' : f'.Plain) (h : Respelled after spelled t)
    (hread : read f spelled = some (set, [])) : ∃ set', read f' t = some (set', after) := by
  have hle := length_behindOpening_le t
  simp only [read, readOpening_text hf] at hread
  obtain ⟨set', t', hread', hleft, -⟩ := readBody_respelled hf hf' hread h.behindOpening
    (Nat.lt_succ_of_le hle) (readOpening f' t).1 (readOpening f' t).2.1
  obtain ⟨-, rfl⟩ | hleft := hleft
  · exact ⟨set', by simp only [read, readOpening_text hf', hread']⟩
  · cases hleft

end Class

/-! ## What the extended dialect writes -/

namespace Extended

variable {r after : Reading} {names : List Text} {depth : Nat} {t rest written whole : Text}

/-- Where no comment stands, nothing is left out. -/
theorem skip?_eq_some (hverbose : r.flags.verbose = false) (hcomment : ¬ ['(', '?', '#'] <+: r.rest) :
    r.skip? = some r := by
  have hdrop : Reading.dropIgnored false (r.rest.length + 1) r.rest = some r.rest := by
    unfold Reading.dropIgnored
    split
    · next heq => exact absurd ⟨_, heq.symm⟩ hcomment
    · rfl
    · rfl
    · next heq => rw [heq]
  rw [Reading.skip?, hverbose, hdrop]
  rfl

/-- An escape in a class is read alike, and up to where the pass goes. -/
theorem readEscape_inClass {e : Escaped} (hclear : Clear names (.inClass depth) ('\\' :: t))
    (h : readEscape r true t = some (e, after)) : after = r.at_ after.rest ∧ after.rest <:+ t ∧
      Clear names (.inClass depth) after.rest ∧ Escape.Matches t after.rest e := by
  obtain ⟨rest, hpass, hrest⟩ := hclear.escape_inClass
  obtain ⟨rfl, hmatches⟩ := Escape.readEscape_shared hpass (fun c u ht => by
    subst ht
    exact hclear.not_digit (by rintro rfl; simp [Pattern.passEscape?, Pattern.ownEscapes] at hpass)) h
  exact ⟨rfl, Pattern.passEscape?_suffix hpass, hrest, hmatches⟩

/-- What the extended dialect writes of a class that the pass goes over. -/
theorem readClassText_respelled {fuel : Nat} (hverbose : r.flags.verbose = false)
    (hclear : Clear names (.inClass depth) r.rest)
    (h : readClassText fuel depth written r = some (whole, after)) :
    ∃ spelled, whole = written.reverse ++ spelled ∧ Class.Respelled after.rest spelled r.rest ∧
      after = r.at_ after.rest ∧ Clear names (.outside true) after.rest := by
  induction fuel generalizing depth written r with
  | zero => cases h
  | succ fuel ih =>
    simp only [readClassText, skip?_eq_some hverbose hclear.not_comment_inClass, Option.bind_eq_bind,
      Option.bind_some] at h
    split at h
    · cases h
    · next t hrest =>
      rw [hrest] at hclear ⊢
      obtain ⟨⟨e, behind⟩, hescape, hread⟩ := Option.bind_eq_some_iff.mp h
      obtain ⟨hbehind, hsuffix, hclear', hmatches⟩ := readEscape_inClass hclear hescape
      have hverbose' : behind.flags.verbose = false := by
        rw [hbehind]
        exact hverbose
      dsimp only at hread
      split at hread
      · next c =>
        obtain ⟨spelled, rfl, hspelled, hafter, hend⟩ := ih hverbose' hclear' hread
        rw [hbehind] at hafter
        cases hmeta : Escape.isMeta c with
        | true =>
          exact ⟨'\\' :: c :: spelled, by simp, .sign hmeta hsuffix hmatches hspelled, hafter, hend⟩
        | false =>
          exact ⟨c :: spelled, by simp, .literal hmeta hsuffix hmatches hspelled, hafter, hend⟩
      · obtain ⟨m, rfl, ht, hsettled⟩ := hmatches
        obtain ⟨spelled, rfl, hspelled, hafter, hend⟩ := ih hverbose' hclear' hread
        rw [hbehind] at hafter
        rw [ht]
        exact ⟨'\\' :: (m ++ spelled), by simp, .member hsettled hspelled, hafter, hend⟩
      · cases hread
    · next t hrest =>
      rw [hrest] at hclear ⊢
      obtain ⟨hlooks, hclear⟩ := hclear.bracket_inClass
      obtain ⟨spelled, rfl, hspelled, hafter, hclear⟩ := ih (r := r.at_ t) hverbose hclear h
      exact ⟨'[' :: spelled, by simp, .bracket hlooks hspelled, hafter, hclear⟩
    · next t hrest =>
      rw [hrest] at hclear ⊢
      cases depth with
      | zero =>
        cases h
        exact ⟨[']'], by simp, .close, rfl, hclear.close_class⟩
      | succ depth =>
        obtain ⟨spelled, rfl, hspelled, hafter, hclear⟩ :=
          ih (r := r.at_ t) hverbose hclear.close_inClass h
        exact ⟨']' :: spelled, by simp, .kept (by decide) (by decide) hspelled, hafter, hclear⟩
    · next c t hbackslash hopen hclose hrest =>
      rw [hrest] at hclear ⊢
      have hc : c ≠ '\\' ∧ c ≠ '[' ∧ c ≠ ']' := ⟨hbackslash, hopen, hclose⟩
      obtain ⟨spelled, rfl, hspelled, hafter, hclear⟩ :=
        ih (r := r.at_ t) hverbose (hclear.char_inClass (by simpa using hc)) h
      exact ⟨c :: spelled, by simp, .kept hc.1 hc.2.1 hspelled, hafter, hclear⟩

/-- The signs at the beginning of a class are written down as they stand. -/
theorem readClass_eq (r : Reading) (t : Text) : ∃ start,
    (∀ c ∈ start, c ≠ '\\' ∧ c ≠ '[') ∧ t = start ++ passBracket (passCaret t) ∧
      readClass r t = (readClassText ((passBracket (passCaret t)).length + 1) 0
        ('[' :: start).reverse (r.at_ (passBracket (passCaret t)))).bind fun found =>
          (classOf? found.2 found.1).bind fun c => some (set c, found.2) := by
  cases t with
  | nil => exact ⟨[], by simp, rfl, rfl⟩
  | cons c t =>
    by_cases hcaret : c = '^'
    · subst hcaret
      cases t with
      | nil => exact ⟨['^'], by simp, rfl, rfl⟩
      | cons d t =>
        by_cases hbracket : d = ']'
        · subst hbracket
          exact ⟨['^', ']'], by simp, rfl, rfl⟩
        · refine ⟨['^'], by simp, ?_, ?_⟩
          all_goals simp [readClass, passCaret, passBracket, hbracket]
    · by_cases hbracket : c = ']'
      · subst hbracket
        exact ⟨[']'], by simp, rfl, rfl⟩
      · refine ⟨[], by simp, ?_, ?_⟩
        all_goals simp [readClass, passCaret, passBracket, hbracket, hcaret]

/-- A class that the extended dialect reads, and that the pass goes over, is one of the linear dialect. -/
theorem readClass_shared {e : Extended} {repeatable : Bool} {f : Flags} (hf : f.Plain)
    (hverbose : r.flags.verbose = false) (hclear : Clear names (.outside repeatable) ('[' :: t))
    (h : readClass r t = some (e, after)) : after = r.at_ after.rest ∧
      after.rest <:+ t ∧ Clear names (.outside true) after.rest ∧
        ∃ set, Class.read f t = some (set, after.rest) := by
  obtain ⟨start, hstart, ht, hread⟩ := readClass_eq r t
  rw [hread] at h
  obtain ⟨⟨whole, behind⟩, htext, h⟩ := Option.bind_eq_some_iff.mp h
  obtain ⟨c, hclass, heq⟩ := Option.bind_eq_some_iff.mp h
  cases heq
  obtain ⟨spelled, rfl, hspelled, hafter, hend⟩ :=
    readClassText_respelled (r := r.at_ (passBracket (passCaret t))) hverbose hclear.bracket htext
  have hspelled := hspelled.keptText hstart
  rw [Reading.at_, ← ht] at hspelled
  refine ⟨hafter, hspelled.suffix, hend, ?_⟩
  simp only [List.reverse_reverse, List.cons_append, classOf?] at hclass
  split at hclass
  · next hread =>
    exact Class.read_respelled (Escape.plain_caseless _) hf hspelled hread
  · cases hclass

end Extended

end BundleHardening
