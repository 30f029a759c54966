import BundleHardening.File.Path
import Mathlib.Data.List.TakeWhile
import Mathlib.Logic.Relation

/-!
# The way up from a path

An absolute path is told by its names: slashes that stand together and pieces `.` add nothing.  Its parent
has all of its names but the last, so the way up from it goes through one directory for each initial segment
of its names and ends at the root (`Path.exists_leadsUpTo_iff`).  A name `..` counts as any other: the way up
is read off the text.
-/

set_option autoImplicit false

namespace BundleHardening.Path

variable {p q d e : Path}

/-! ## Pieces -/

theorem pieces_ne_nil (p : Path) : p.pieces ≠ [] := by
  intro h
  have hs := span_pieces p
  rw [h, span] at hs
  omega

/-- No piece has a slash in it. -/
theorem slash_notMem_of_mem_pieces {r : Text} (h : r ∈ p.pieces) : '/' ∉ r := by
  induction p generalizing r with
  | nil =>
    rw [pieces, List.mem_singleton] at h
    simp [h]
  | cons c p ih =>
    rw [pieces] at h
    split at h
    · obtain rfl | h := List.mem_cons.mp h
      · simp
      · exact ih h
    · next hc =>
      split at h
      · next hnil => exact absurd hnil (pieces_ne_nil p)
      · next r' rs hpieces =>
        obtain rfl | h := List.mem_cons.mp h
        · have := ih (r := r') (by simp [hpieces])
          simp [Ne.symm hc, this]
        · exact ih (by simp [hpieces, h])

/-- A text without a slash is one piece. -/
theorem pieces_of_slash_notMem {r : Text} (h : '/' ∉ r) : pieces r = [r] := by
  induction r with
  | nil => rfl
  | cons c r ih =>
    rw [List.mem_cons, not_or] at h
    rw [pieces, if_neg (Ne.symm h.1), ih h.2]

/-- The pieces on both sides of a slash. -/
theorem pieces_append_slash (p q : Path) : pieces (p ++ '/' :: q) = p.pieces ++ q.pieces := by
  induction p with
  | nil => rfl
  | cons c p ih =>
    rw [List.cons_append, pieces, pieces, ih]
    split
    · rfl
    · obtain ⟨r, rs, hpieces⟩ := List.exists_cons_of_ne_nil (pieces_ne_nil p)
      rw [hpieces]
      rfl

/-- Pieces are those of the path that they make up. -/
theorem pieces_ofPieces {rs : List Text} (hne : rs ≠ []) (h : ∀ r ∈ rs, '/' ∉ r) :
    pieces (ofPieces rs) = rs := by
  induction rs with
  | nil => exact absurd rfl hne
  | cons r rs ih =>
    have hr := pieces_of_slash_notMem (h r (by simp))
    cases rs with
    | nil => exact hr
    | cons s rs =>
      rw [ofPieces, pieces_append_slash, hr, ih (by simp) fun t ht => h t (by simp [ht])]
      · rfl
      · simp

/-! ## Names -/

/-- The names along an absolute path. -/
def names (p : Path) : List Text :=
  p.pieces.filter fun q => !isIdle q

/-- The number of names along an absolute path. -/
def depth (p : Path) : Nat :=
  p.names.length

theorem names_append_slash (p q : Path) : names (p ++ '/' :: q) = p.names ++ q.names := by
  rw [names, pieces_append_slash, List.filter_append]
  rfl

theorem names_cons_slash (p : Path) : names ('/' :: p) = p.names :=
  names_append_slash [] p

theorem names_ofPieces {rs : List Text} (h : ∀ r ∈ rs, '/' ∉ r) :
    names (ofPieces rs) = rs.filter fun r => !isIdle r := by
  cases rs with
  | nil => rfl
  | cons r rs => rw [names, pieces_ofPieces (List.cons_ne_nil r rs) h]

/-- The names of a path below a directory are those of the directory and those of the path. -/
theorem names_join (hq : q.isAbsolute = false) : (p.join q).names = p.names ++ q.names := by
  rw [join, if_neg (by simp [hq])]
  split
  · next h =>
    rw [Bool.or_eq_true, List.isEmpty_iff, beq_iff_eq] at h
    obtain rfl | hlast := h
    · rfl
    · obtain ⟨r, rfl⟩ := List.getLast?_eq_some_iff.mp hlast
      rw [List.append_assoc, List.singleton_append, names_append_slash, names_append_slash]
      exact congrArg (· ++ q.names) (List.append_nil _).symm
  · exact names_append_slash p q

theorem filter_dropWhile_isIdle (rs : List Text) :
    ((rs.dropWhile isIdle).filter fun r => !isIdle r) = rs.filter fun r => !isIdle r := by
  induction rs with
  | nil => rfl
  | cons r rs ih => cases h : isIdle r <;> simp [h, ih]

/-! ## Parents -/

/-- Below the root, idle pieces are dropped up to the root. -/
theorem dropIdle_append_root (rs : List Text) :
    dropIdle (rs ++ [[]]) = rs.dropWhile isIdle ++ [[]] := by
  induction rs with
  | nil => rfl
  | cons r rs ih =>
    obtain ⟨s, ss, hss⟩ := List.exists_cons_of_ne_nil (l := rs ++ [[]]) (by simp)
    rw [List.cons_append, hss, dropIdle, ← hss, ih, List.dropWhile_cons]
    · split <;> rfl
    · simp

theorem ofReversed_append_root (rs : List Text) : ofReversed (rs ++ [[]]) = '/' :: ofPieces rs.reverse := by
  rw [ofReversed]
  cases h : rs.reverse with
  | nil =>
    rw [List.reverse_eq_nil_iff.mp h]
    rfl
  | cons s ss =>
    have hne : rs ≠ [] := by
      rintro rfl
      cases h
    rw [if_neg (by simpa using hne), List.reverse_append, h]
    rfl

/-- The parent of an absolute path, from the pieces behind the first slash. -/
theorem parent?_cons_slash (t : Path) :
    parent? ('/' :: t) =
      match t.pieces.reverse.dropWhile isIdle with
      | [] => none
      | _ :: rs => some ('/' :: ofPieces (rs.dropWhile isIdle).reverse) := by
  have hpieces : pieces ('/' :: t) = [] :: t.pieces := by rw [pieces, if_pos rfl]
  rw [parent?, hpieces, List.reverse_cons, dropIdle_append_root]
  cases t.pieces.reverse.dropWhile isIdle with
  | nil => rfl
  | cons r rs =>
    obtain ⟨s, ss, hss⟩ := List.exists_cons_of_ne_nil (l := rs ++ [[]]) (by simp)
    rw [List.cons_append, hss]
    dsimp only
    rw [← hss, dropIdle_append_root, ofReversed_append_root]

theorem exists_of_isAbsolute (h : p.isAbsolute = true) : ∃ t : Path, p = '/' :: t :=
  List.head?_eq_some_iff.mp (by simpa [isAbsolute] using h)

/-- The parent of an absolute path is absolute, and has all of its names but the last. -/
theorem names_of_parent? (hp : p.isAbsolute = true) (h : p.parent? = some q) :
    q.isAbsolute = true ∧ ∃ name, p.names = q.names ++ [name] := by
  obtain ⟨t, rfl⟩ := exists_of_isAbsolute hp
  rw [parent?_cons_slash] at h
  split at h
  · cases h
  · next name rs hrest =>
    cases h
    have hname : isIdle name = false := by
      have hfirst := List.head?_dropWhile_not isIdle t.pieces.reverse
      rw [hrest] at hfirst
      exact hfirst
    have hslash : ∀ r ∈ (rs.dropWhile isIdle).reverse, '/' ∉ r := by
      intro r hr
      have hleft : r ∈ name :: rs :=
        List.mem_cons_of_mem name ((List.dropWhile_sublist _).mem (List.mem_reverse.mp hr))
      rw [← hrest] at hleft
      exact slash_notMem_of_mem_pieces (List.mem_reverse.mp ((List.dropWhile_sublist _).mem hleft))
    refine ⟨rfl, name, ?_⟩
    calc names ('/' :: t)
        = ((t.pieces.reverse.dropWhile isIdle).filter fun r => !isIdle r).reverse := by
          rw [names_cons_slash, names, filter_dropWhile_isIdle, List.filter_reverse, List.reverse_reverse]
      _ = (rs.filter fun r => !isIdle r).reverse ++ [name] := by
          rw [hrest, List.filter_cons_of_pos (by simp [hname]), List.reverse_cons]
      _ = names ('/' :: ofPieces (rs.dropWhile isIdle).reverse) ++ [name] := by
          rw [names_cons_slash, names_ofPieces hslash, List.filter_reverse, filter_dropWhile_isIdle]

theorem depth_of_parent? (hp : p.isAbsolute = true) (h : p.parent? = some q) : p.depth = q.depth + 1 := by
  obtain ⟨-, name, hnames⟩ := names_of_parent? hp h
  rw [depth, hnames, List.length_append]
  rfl

/-- Only the root has no parent among the absolute paths. -/
theorem parent?_eq_none_iff (hp : p.isAbsolute = true) : p.parent? = none ↔ p.names = [] := by
  obtain ⟨t, rfl⟩ := exists_of_isAbsolute hp
  have hnames : names ('/' :: t) = [] ↔ t.pieces.reverse.dropWhile isIdle = [] := by
    rw [names_cons_slash, names, List.filter_eq_nil_iff, List.dropWhile_eq_nil_iff]
    simp
  rw [hnames, parent?_cons_slash]
  split
  · next h => simp [h]
  · next h => simp [h]

/-! ## The way up -/

/-- Whether the way up from a path leads to a directory: to the path itself, to its parent, and so on. -/
def LeadsUpTo : Path → Path → Prop :=
  Relation.ReflTransGen fun p q => p.parent? = some q

theorem leadsUpTo_iff : p.LeadsUpTo d ↔ d = p ∨ ∃ q, p.parent? = some q ∧ q.LeadsUpTo d := by
  rw [LeadsUpTo, Relation.ReflTransGen.cases_head_iff, eq_comm]

theorem leadsUpTo_iff_of_parent?_eq_none (h : p.parent? = none) : p.LeadsUpTo d ↔ d = p := by
  rw [leadsUpTo_iff]
  simp [h]

theorem leadsUpTo_iff_of_parent?_eq_some (h : p.parent? = some q) :
    p.LeadsUpTo d ↔ d = p ∨ q.LeadsUpTo d := by
  rw [leadsUpTo_iff]
  simp [h]

theorem mem_ancestors_iff : d ∈ p.ancestors ↔ p.LeadsUpTo d := by
  fun_induction ancestors p with
  | case1 p h => rw [List.mem_singleton, leadsUpTo_iff_of_parent?_eq_none h]
  | case2 p q h ih => rw [List.mem_cons, ih, leadsUpTo_iff_of_parent?_eq_some h]

instance (p d : Path) : Decidable (p.LeadsUpTo d) :=
  decidable_of_iff _ mem_ancestors_iff

namespace LeadsUpTo

theorem refl (p : Path) : p.LeadsUpTo p :=
  Relation.ReflTransGen.refl

theorem of_parent? (h : p.parent? = some q) (hd : q.LeadsUpTo d) : p.LeadsUpTo d :=
  Relation.ReflTransGen.head h hd

/-- The names of a directory on the way up are the first ones of the path. -/
theorem names_initial (h : p.LeadsUpTo d) (hp : p.isAbsolute = true) :
    d.isAbsolute = true ∧ d.names <+: p.names := by
  induction h using Relation.ReflTransGen.head_induction_on with
  | refl => exact ⟨hp, List.prefix_rfl⟩
  | head hq _ ih =>
    obtain ⟨hq, name, hnames⟩ := names_of_parent? hp hq
    obtain ⟨hd, hinitial⟩ := ih hq
    exact ⟨hd, hnames ▸ hinitial.trans (List.prefix_append _ _)⟩

/-- A directory on the way up is not deeper than the path. -/
theorem depth_le (h : p.LeadsUpTo d) (hp : p.isAbsolute = true) : d.depth ≤ p.depth :=
  (h.names_initial hp).2.length_le

/-- A directory on the way up is the path itself, or above it. -/
theorem eq_or_depth_lt (h : p.LeadsUpTo d) (hp : p.isAbsolute = true) : d = p ∨ d.depth < p.depth := by
  obtain rfl | ⟨q, hq, hd⟩ := leadsUpTo_iff.mp h
  · exact .inl rfl
  · have hle := hd.depth_le (names_of_parent? hp hq).1
    have hdepth := depth_of_parent? hp hq
    exact .inr (by omega)

/-- On the way up, there is one directory of each depth. -/
theorem eq_of_depth_eq (hd : p.LeadsUpTo d) (he : p.LeadsUpTo e) (hp : p.isAbsolute = true)
    (h : d.depth = e.depth) : d = e := by
  have hunique : Relator.RightUnique fun p q : Path => p.parent? = some q :=
    fun p q r hq hr => Option.some.inj (hq.symm.trans hr)
  obtain hde | hed := Relation.ReflTransGen.total_of_right_unique hunique hd he
  · obtain rfl | hlt := eq_or_depth_lt hde (hd.names_initial hp).1
    · rfl
    · omega
  · obtain rfl | hlt := eq_or_depth_lt hed (he.names_initial hp).1
    · rfl
    · omega

end LeadsUpTo

/-- The way up from an absolute path leads to a directory for each initial segment of its names, and to no
other. -/
theorem exists_leadsUpTo_iff (hp : p.isAbsolute = true) {names : List Text} :
    (∃ d, p.LeadsUpTo d ∧ d.names = names) ↔ names <+: p.names := by
  constructor
  · rintro ⟨d, hd, rfl⟩
    exact (hd.names_initial hp).2
  · intro h
    fun_induction ancestors p with
    | case1 p hroot =>
      have hnil := (parent?_eq_none_iff hp).mp hroot
      rw [hnil, List.prefix_nil] at h
      exact ⟨p, .refl p, hnil.trans h.symm⟩
    | case2 p q hq ih =>
      obtain ⟨habsolute, name, hnames⟩ := names_of_parent? hp hq
      rw [hnames, List.prefix_concat_iff] at h
      obtain rfl | h := h
      · exact ⟨p, .refl p, hnames⟩
      · obtain ⟨d, hd, rfl⟩ := ih habsolute h
        exact ⟨d, .of_parent? hq hd, rfl⟩

end BundleHardening.Path
