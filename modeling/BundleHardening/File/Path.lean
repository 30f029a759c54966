import BundleHardening.Text.Basic

/-!
# Paths

A path is a text in which a slash stands between names.  Paths are taken as they are written: a name
`.` or `..` inside a path stays where it is, and only the file tree gives it a meaning.
-/

set_option autoImplicit false

namespace BundleHardening

/-- The path of a file or a directory. -/
abbrev Path := Text

namespace Path

/-- Whether a path begins at the root. -/
def isAbsolute (p : Path) : Bool :=
  p.head? == some '/'

/-- The pieces of a path between its slashes, empty ones included. -/
def pieces : Path → List Text
  | [] => [[]]
  | c :: p =>
    if c = '/' then [] :: pieces p
    else
      match pieces p with
      | [] => [[c]]
      | q :: qs => (c :: q) :: qs

/-- The path of which these are the pieces. -/
def ofPieces : List Text → Path
  | [] => []
  | [q] => q
  | q :: qs => q ++ '/' :: ofPieces qs

/-- A path below a directory; an absolute path stands for itself. -/
def join (base p : Path) : Path :=
  if p.isAbsolute then p
  else if base.isEmpty || base.getLast? == some '/' then base ++ p
  else base ++ '/' :: p

/-- Whether a piece names nothing. -/
def isIdle (q : Text) : Bool :=
  q == [] || q == ['.']

/-- Drops idle pieces from the front of the pieces in reverse; the first piece of a path stays. -/
def dropIdle : List Text → List Text
  | [] => []
  | [q] => [q]
  | q :: qs => if isIdle q then dropIdle qs else q :: qs

/-- The path of pieces in reverse; an empty first piece alone is the root. -/
def ofReversed (qs : List Text) : Path :=
  if qs = [[]] then ['/'] else ofPieces qs.reverse

/-- The directory that a path lies in, as far as its text tells.  The root and the empty path have
none. -/
def parent? (p : Path) : Option Path :=
  match dropIdle p.pieces.reverse with
  | [] => none
  | [q] => if q = [] then none else some []
  | _ :: qs => some (ofReversed (dropIdle qs))

/-! ## Parents are shorter -/

/-- The length of pieces with a slash behind each. -/
def span : List Text → Nat
  | [] => 0
  | q :: qs => q.length + 1 + span qs

theorem span_cons (q : Text) (qs : List Text) : span (q :: qs) = q.length + 1 + span qs :=
  rfl

theorem span_append (qs rs : List Text) : span (qs ++ rs) = span qs + span rs := by
  induction qs with
  | nil => exact (Nat.zero_add _).symm
  | cons q qs ih =>
    rw [List.cons_append, span_cons, span_cons, ih]
    omega

theorem span_reverse (qs : List Text) : span qs.reverse = span qs := by
  induction qs with
  | nil => rfl
  | cons q qs ih =>
    have hlast : span [q] = q.length + 1 := rfl
    rw [List.reverse_cons, span_append, hlast, ih, span_cons, Nat.add_comm]

theorem span_pieces (p : Path) : span p.pieces = p.length + 1 := by
  induction p with
  | nil => rfl
  | cons c p ih =>
    simp only [pieces]
    split
    · rw [span_cons, ih, List.length_cons, List.length_nil]
      omega
    · split
      · next h => simp [h, span] at ih
      · next q qs h =>
        rw [h, span_cons] at ih
        rw [span_cons, List.length_cons, List.length_cons]
        omega

theorem length_ofPieces (qs : List Text) (h : qs ≠ []) : (ofPieces qs).length + 1 = span qs := by
  induction qs with
  | nil => exact absurd rfl h
  | cons q qs ih =>
    cases qs with
    | nil => simp [ofPieces, span]
    | cons r rs =>
      have ih := ih (by simp)
      simp only [ofPieces, List.length_append, List.length_cons]
      rw [span_cons]
      omega

theorem span_dropIdle_le (qs : List Text) : span (dropIdle qs) ≤ span qs := by
  fun_induction dropIdle qs with
  | case1 => exact Nat.le_refl _
  | case2 q => exact Nat.le_refl _
  | case3 q qs _ _ ih => rw [span_cons]; omega
  | case4 q qs _ _ => exact Nat.le_refl _

theorem dropIdle_ne_nil {qs : List Text} (h : qs ≠ []) : dropIdle qs ≠ [] := by
  fun_induction dropIdle qs with
  | case1 => exact absurd rfl h
  | case2 q => exact List.cons_ne_nil _ _
  | case3 q qs hne _ ih => exact ih hne
  | case4 q qs _ _ => exact List.cons_ne_nil _ _

theorem isIdle_of_dropIdle {qs rs : List Text} {q r : Text} (h : dropIdle qs = q :: r :: rs) :
    isIdle q = false := by
  fun_induction dropIdle qs with
  | case1 => cases h
  | case2 s => cases h
  | case3 s ss _ _ ih => exact ih h
  | case4 s ss _ hi =>
    cases h
    simpa using hi

/-- The parent of a path is shorter than the path. -/
theorem length_lt_of_parent? {p q : Path} (h : p.parent? = some q) : q.length < p.length := by
  have hs := span_dropIdle_le p.pieces.reverse
  rw [span_reverse, span_pieces] at hs
  unfold parent? at h
  split at h
  · cases h
  · next r hr =>
    rw [hr] at hs
    split at h
    · cases h
    · next hne =>
      cases h
      have hpos : 0 < r.length := List.length_pos_iff.mpr hne
      simp [span] at hs
      simp only [List.length_nil]
      omega
  · next r rs hrs hr =>
    cases h
    rw [hr, span_cons] at hs
    have hle := span_dropIdle_le rs
    have hne : rs ≠ [] := hrs
    unfold ofReversed
    split
    · next heq =>
      obtain ⟨s, ss, hss⟩ := List.exists_cons_of_ne_nil hne
      have hidle : isIdle r = false := isIdle_of_dropIdle (hss ▸ hr)
      have hpos : 0 < r.length := by
        apply List.length_pos_iff.mpr
        intro he
        simp [isIdle, he] at hidle
      rw [heq] at hle
      simp [span] at hle hs
      simp only [List.length_cons, List.length_nil]
      omega
    · have hlen := length_ofPieces (dropIdle rs).reverse (by simpa using dropIdle_ne_nil hne)
      rw [span_reverse] at hlen
      omega

/-- A path and the directories above it, the nearest first. -/
def ancestors (p : Path) : List Path :=
  match _h : p.parent? with
  | none => [p]
  | some q => p :: ancestors q
termination_by p.length
decreasing_by exact length_lt_of_parent? (by assumption)

end Path

end BundleHardening
