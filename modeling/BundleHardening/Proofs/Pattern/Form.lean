import BundleHardening.Pattern.Scan
import BundleHardening.Proofs.Pattern.Threads
import BundleHardening.Rule

/-!
# Matches read off the text

A *form* says without a pattern what is matched at the beginning of a text.  It determines the first
match in a text, all matches, and the text with each match replaced.

A regular pattern *reads* a form when it matches at every position what the form says.
`Scan.of_all` and `Scan.of_first` say that the scan of such a pattern is the scan of its form.
-/

set_option autoImplicit false

namespace BundleHardening

/-- What is matched at the beginning of a text, if anything; never the empty text. -/
structure Form where
  read : Text → Option Groups
  splits : ∀ {t : Text} {g : Groups}, read t = some g → t = g.whole ++ g.after
  advances : ∀ {t : Text} {g : Groups}, read t = some g → g.whole ≠ []

namespace Form

variable (f : Form) {t : Text} {c : Char} {g : Groups} {hit : Hit}

theorem read_nil : f.read [] = none := by
  cases h : f.read [] with
  | none => rfl
  | some g =>
    have hwhole : g.whole = [] := (List.append_eq_nil_iff.mp (f.splits h).symm).1
    exact absurd hwhole (f.advances h)

variable {f} in
theorem length_after (h : f.read t = some g) : g.after.length < t.length := by
  have hlen : t.length = g.whole.length + g.after.length := by
    rw [← List.length_append, ← f.splits h]
  have hpos := List.length_pos_iff.mpr (f.advances h)
  omega

/-- The first match, with the text before it. -/
def first? : Text → Option Hit
  | [] => none
  | c :: t =>
    match f.read (c :: t) with
    | some g => some ⟨[], g⟩
    | none => (first? t).map fun hit => ⟨c :: hit.gap, hit.groups⟩

theorem first?_of_read (h : f.read t = some g) : f.first? t = some ⟨[], g⟩ := by
  cases t with
  | nil => rw [f.read_nil] at h; cases h
  | cons c t => simp only [first?, h]

theorem first?_cons (h : f.read (c :: t) = none) :
    f.first? (c :: t) = (f.first? t).map fun hit => ⟨c :: hit.gap, hit.groups⟩ := by
  simp only [first?, h]

variable {f} in
/-- Behind the text before the first match stands what the form reads. -/
theorem of_first? (h : f.first? t = some hit) :
    t = hit.gap ++ (hit.groups.whole ++ hit.groups.after) ∧
      f.read (hit.groups.whole ++ hit.groups.after) = some hit.groups := by
  induction t generalizing hit with
  | nil => cases h
  | cons c t ih =>
    cases hr : f.read (c :: t) with
    | some g =>
      rw [f.first?_of_read hr] at h
      cases h
      exact ⟨f.splits hr, f.splits hr ▸ hr⟩
    | none =>
      rw [f.first?_cons hr, Option.map_eq_some_iff] at h
      obtain ⟨inner, hin, rfl⟩ := h
      obtain ⟨ht, hread⟩ := ih hin
      exact ⟨congrArg (c :: ·) ht, hread⟩

variable {f} in
/-- Nothing is read in the text before the first match. -/
theorem read_of_gap (h : f.first? t = some hit) {s : Text} (hs : s <:+ hit.gap) (hne : s ≠ []) :
    f.read (s ++ (hit.groups.whole ++ hit.groups.after)) = none := by
  induction t generalizing hit with
  | nil => cases h
  | cons c t ih =>
    cases hr : f.read (c :: t) with
    | some g =>
      rw [f.first?_of_read hr] at h
      cases h
      exact absurd (List.suffix_nil.mp hs) hne
    | none =>
      have hsplit := (of_first? h).1
      rw [f.first?_cons hr, Option.map_eq_some_iff] at h
      obtain ⟨inner, hin, rfl⟩ := h
      rcases List.suffix_cons_iff.mp hs with rfl | hs
      · exact hsplit ▸ hr
      · have hlater := ih hin hs
        exact hlater

theorem first?_append_of_misses {front : Text} (h : ∀ s, s <:+ front → s ≠ [] → f.read (s ++ t) = none) :
    f.first? (front ++ t) = (f.first? t).map fun hit => ⟨front ++ hit.gap, hit.groups⟩ := by
  induction front with
  | nil => simp
  | cons c front ih =>
    have hread : f.read (c :: (front ++ t)) = none := h _ (List.suffix_refl _) (List.cons_ne_nil c front)
    rw [List.cons_append, f.first?_cons hread, ih fun s hs => h s (hs.trans (List.suffix_cons c front)),
      Option.map_map]
    rfl

variable {f} in
theorem length_after_first? (h : f.first? t = some hit) : hit.groups.after.length < t.length := by
  obtain ⟨ht, hread⟩ := of_first? h
  have hlt := length_after hread
  rw [ht, List.length_append]
  omega

/-- All matches from the left without overlap. -/
def scan (t : Text) : Scan :=
  match _h : f.first? t with
  | none => ⟨[], t, false⟩
  | some hit =>
    let rest := scan hit.groups.after
    { rest with hits := hit :: rest.hits }
termination_by t.length
decreasing_by exact length_after_first? _h

theorem scan_of_none (h : f.first? t = none) : f.scan t = ⟨[], t, false⟩ := by
  rw [scan]
  split
  · rfl
  · next h' => rw [h] at h'; cases h'

theorem scan_of_some (h : f.first? t = some hit) :
    f.scan t = { f.scan hit.groups.after with hits := hit :: (f.scan hit.groups.after).hits } := by
  rw [scan]
  split
  · next h' => rw [h] at h'; cases h'
  · next h' => rw [h] at h'; cases h'; rfl

/-- The groups of all matches. -/
def found (t : Text) : List Groups :=
  (f.scan t).hits.map Hit.groups

theorem found_of_none (h : f.first? t = none) : f.found t = [] := by
  rw [found, f.scan_of_none h]
  rfl

theorem found_of_some (h : f.first? t = some hit) :
    f.found t = hit.groups :: f.found hit.groups.after := by
  rw [found, f.scan_of_some h]
  rfl

@[simp]
theorem found_nil : f.found [] = [] :=
  f.found_of_none rfl

theorem found_of_read (h : f.read t = some g) : f.found t = g :: f.found g.after :=
  f.found_of_some (f.first?_of_read h)

theorem found_cons (h : f.read (c :: t) = none) : f.found (c :: t) = f.found t := by
  cases hf : f.first? t with
  | none => rw [f.found_of_none hf, f.found_of_none (by rw [f.first?_cons h, hf]; rfl)]
  | some hit =>
    rw [f.found_of_some hf, f.found_of_some (by rw [f.first?_cons h, hf]; rfl)]

/-- The text with each match replaced. -/
def rewrite (new : Groups → Text) (t : Text) : Text :=
  (f.scan t).fill ((f.scan t).hits.map fun hit => new hit.groups)

variable (new : Groups → Text)

theorem rewrite_of_none (h : f.first? t = none) : f.rewrite new t = t := by
  rw [rewrite, f.scan_of_none h]
  rfl

theorem rewrite_of_some (h : f.first? t = some hit) :
    f.rewrite new t = hit.gap ++ (new hit.groups ++ f.rewrite new hit.groups.after) := by
  rw [rewrite, f.scan_of_some h]
  simp [Scan.fill, rewrite]

@[simp]
theorem rewrite_nil : f.rewrite new [] = [] :=
  f.rewrite_of_none new rfl

theorem rewrite_of_read (h : f.read t = some g) :
    f.rewrite new t = new g ++ f.rewrite new g.after :=
  f.rewrite_of_some new (f.first?_of_read h)

theorem rewrite_cons (h : f.read (c :: t) = none) :
    f.rewrite new (c :: t) = c :: f.rewrite new t := by
  cases hf : f.first? t with
  | none => rw [f.rewrite_of_none new hf, f.rewrite_of_none new (by rw [f.first?_cons h, hf]; rfl)]
  | some hit =>
    rw [f.rewrite_of_some new hf, f.rewrite_of_some new (by rw [f.first?_cons h, hf]; rfl)]
    rfl

/-- A text is empty, begins with a match, or begins with a character at which nothing matches. -/
@[elab_as_elim]
theorem induction {motive : Text → Prop} (nil : motive [])
    (hit : ∀ t g, f.read t = some g → motive g.after → motive t)
    (keep : ∀ c t, f.read (c :: t) = none → motive t → motive (c :: t)) (t : Text) : motive t := by
  induction hn : t.length using Nat.strongRecOn generalizing t with
  | ind n ih =>
    cases h : f.read t with
    | some g => exact hit t g h (ih _ (hn ▸ length_after h) _ rfl)
    | none =>
      cases t with
      | nil => exact nil
      | cons c t => exact keep c t h (ih t.length (hn ▸ Nat.lt_succ_self _) t rfl)

/-- A text in which nothing matches at any position stays as it is. -/
theorem rewrite_of_misses (h : ∀ s, s <:+ t → f.read s = none) : f.rewrite new t = t := by
  induction t with
  | nil => exact f.rewrite_nil new
  | cons c t ih =>
    rw [f.rewrite_cons new (h _ (List.suffix_refl _)), ih fun s hs => h s (hs.trans (t.suffix_cons c))]

end Form

/-- The pattern matches at every position what the form says, and nothing where it says nothing. -/
structure Regular.Reads (r : Regular) (f : Form) : Prop where
  advancing : r.advancing = true
  misses : ∀ here : Cursor, f.read here.rest = none →
    (Regular.group 0 r).tries Ending.final here [] = none
  takes : ∀ (here : Cursor) (g : Groups), f.read here.rest = some g → ∃ marks spans,
    (Regular.group 0 r).tries Ending.final here [] = some marks ∧
      Pattern.foundOf (r.lastGroup + 1) (Pattern.spanOf marks) =
        .found ⟨here, here.ahead g.whole.length, spans⟩ ∧
      Scan.groupsOf ⟨here, here.ahead g.whole.length, spans⟩ = g

namespace Pattern

/-- The pattern is matched in one pass, and finds from every position on the first match of the form. -/
structure Finds (p : Pattern) (f : Form) : Prop where
  linear : p.engine = .linear
  misses : ∀ start : Cursor, f.first? start.rest = none → p.find start = .nowhere
  takes : ∀ (start : Cursor) (hit : Hit), f.first? start.rest = some hit → ∃ spans,
    let first := start.ahead hit.gap.length
    let last := first.ahead hit.groups.whole.length
    p.find start = .found ⟨first, last, spans⟩ ∧ Scan.groupsOf ⟨first, last, spans⟩ = hit.groups

variable {f : Form} {r : Regular}

/-- The search goes to the first position at which the form reads something. -/
theorem earliest_reads (h : r.Reads f) : ∀ (text : Text) (start : Cursor), start.rest = text →
    (f.first? text = none → Search.earliest (Node.ofPattern r) start = none) ∧
    ∀ hit, f.first? text = some hit → ∃ marks spans,
      let first := start.ahead hit.gap.length
      let last := first.ahead hit.groups.whole.length
      Search.earliest (Node.ofPattern r) start = some marks ∧
        foundOf (r.lastGroup + 1) (spanOf marks) = .found ⟨first, last, spans⟩ ∧
        Scan.groupsOf ⟨first, last, spans⟩ = hit.groups := by
  have htries : (Node.ofPattern r).tries = (Regular.group 0 r).tries :=
    Node.tries_ofRegular (.group 0 r) h.advancing 0
  intro text
  induction text with
  | nil =>
    intro start hrest
    refine ⟨fun _ => ?_, fun hit hhit => by cases hhit⟩
    rw [Search.earliest_eq, htries, h.misses start (by rw [hrest, f.read_nil]), Search.later, hrest]
    rfl
  | cons c text ih =>
    intro start hrest
    have hlater : Search.later (Node.ofPattern r) start =
        Search.earliest (Node.ofPattern r) (start.ahead 1) := by rw [Search.later, hrest]
    obtain ⟨hnone, hsome⟩ := ih (start.ahead 1) (by rw [Cursor.rest_ahead, hrest]; rfl)
    rw [Search.earliest_eq, htries, hlater]
    cases hr : f.read (c :: text) with
    | some g =>
      obtain ⟨marks, spans, hmarks, hfound, hgroups⟩ := h.takes start g (hrest ▸ hr)
      rw [f.first?_of_read hr]
      refine ⟨fun hnone => (Option.some_ne_none _ hnone).elim, fun hit hhit => ?_⟩
      cases hhit
      refine ⟨marks, spans, ?_⟩
      simp only [List.length_nil, Cursor.ahead_zero, hmarks, Option.some_or]
      exact ⟨trivial, hfound, hgroups⟩
    | none =>
      rw [h.misses start (hrest ▸ hr), Option.none_or, f.first?_cons hr]
      refine ⟨fun hhit => hnone (Option.map_eq_none_iff.mp hhit), fun hit hhit => ?_⟩
      obtain ⟨inner, hin, rfl⟩ := Option.map_eq_some_iff.mp hhit
      have hahead : start.ahead (c :: inner.gap).length = (start.ahead 1).ahead inner.gap.length := by
        rw [Cursor.ahead_ahead, List.length_cons, Nat.add_comm]
      simpa only [hahead] using hsome inner hin

theorem run_ofPattern (h : r.advancing = true) (start : Cursor) :
    Search.run (Node.ofPattern r) false start = Search.earliest (Node.ofPattern r) start :=
  Search.run_eq (Node.advancing_ofRegular (.group 0 r) h 0) start

/-- Searching for a pattern that reads a form finds the form's first match. -/
theorem finds_ofRegular (h : r.Reads f) (written : Text) :
    (ofRegular written .linear r).Finds f where
  linear := rfl
  misses start hfirst := by
    have hrun := run_ofPattern h.advancing start
    rw [(earliest_reads h _ start rfl).1 hfirst] at hrun
    simp only [find, ofRegular, hrun]
  takes start hit hfirst := by
    obtain ⟨marks, spans, hmarks, hfound, hgroups⟩ := (earliest_reads h _ start rfl).2 hit hfirst
    have hrun := run_ofPattern h.advancing start
    rw [hmarks] at hrun
    refine ⟨spans, ?_, hgroups⟩
    simp only [find, ofRegular, hrun, hfound]

theorem ofText_of_read {written : Text} (hdialect : needsBacktracking written = false)
    (hread : Regular.ofText? written = some r) :
    ofText written = .ok (ofRegular written .linear r) := by
  rw [ofText, hdialect, if_neg Bool.false_ne_true, linear?, hread]

/-- A written pattern of the linear dialect finds what the regular pattern it is read as reads. -/
theorem finds_ofText {written : Text} (hdialect : needsBacktracking written = false)
    (hread : Regular.ofText? written = some r) (h : r.Reads f) :
    ∃ p, ofText written = .ok p ∧ p.Finds f :=
  ⟨_, ofText_of_read hdialect hread, finds_ofRegular h written⟩

end Pattern

namespace Scan

variable {p : Pattern} {f : Form}

/-- One round of a scan: the next match is put down, and the scan goes on behind it. -/
theorem collect_eq (h : p.Finds f) (fuel : Nat) {limit : Option Nat} (hlimit : limit ≠ some 0)
    (start : Cursor) (taken : Option Nat) (hits : List Hit) :
    collect p false (fuel + 1) limit (some start) start taken hits =
      match f.first? start.rest with
      | none => ⟨hits.reverse, start.rest, false⟩
      | some hit =>
        let next := start.ahead (hit.gap.length + hit.groups.whole.length)
        collect p false fuel (limit.map (· - 1)) (some next) next (some next.index) (hit :: hits) := by
  have hgo : (limit == some 0) = false := by simpa using hlimit
  rw [collect]
  simp only [hgo, Bool.false_and, Bool.false_eq_true, if_false]
  cases hf : f.first? start.rest with
  | none => simp only [h.misses start hf]
  | some hit =>
    obtain ⟨spans, hfind, hgroups⟩ := h.takes start hit hf
    obtain ⟨hsplit, hread⟩ := Form.of_first? hf
    have hpos := List.length_pos_iff.mpr (f.advances hread)
    have hfull : ((start.ahead hit.gap.length).index ==
        ((start.ahead hit.gap.length).ahead hit.groups.whole.length).index) = false := by
      simp only [Cursor.index_ahead, beq_eq_false_iff_ne]
      omega
    have hgap : start.upTo (start.ahead hit.gap.length) = hit.gap := by
      rw [Cursor.upTo_self_ahead, hsplit, List.take_left]
    simp only [hfind, hfull, Bool.false_and, Bool.false_eq_true, if_false, hgap, hgroups]
    simp only [Cursor.ahead_ahead]

/-- Without a limit the matches of the pattern are those of the form. -/
theorem collect_all (h : p.Finds f) : ∀ (fuel : Nat) (start : Cursor) (taken : Option Nat)
    (hits : List Hit), start.rest.length < fuel →
      collect p false fuel none (some start) start taken hits =
        { f.scan start.rest with hits := hits.reverse ++ (f.scan start.rest).hits } := by
  intro fuel
  induction fuel with
  | zero => intro start taken hits hlt; omega
  | succ fuel ih =>
    intro start taken hits hlt
    rw [collect_eq h fuel (Option.some_ne_none 0).symm]
    cases hf : f.first? start.rest with
    | none => simp [f.scan_of_none hf]
    | some hit =>
      have hrest : (start.ahead (hit.gap.length + hit.groups.whole.length)).rest =
          hit.groups.after := by
        rw [Cursor.rest_ahead, (Form.of_first? hf).1, ← List.append_assoc]
        exact List.drop_left' (List.length_append ..)
      have hshort := Form.length_after_first? hf
      have hnext := ih (start.ahead (hit.gap.length + hit.groups.whole.length))
        (some (start.ahead (hit.gap.length + hit.groups.whole.length)).index) (hit :: hits)
        (by rw [hrest]; omega)
      rw [hrest] at hnext
      simp only [Option.map_none, hnext, f.scan_of_some hf, List.reverse_cons, List.append_assoc,
        List.singleton_append]

theorem of_all (h : p.Finds f) (t : Text) : of p none t = f.scan t := by
  have hengine : (p.engine == .backtracking) = false := by rw [h.linear]; rfl
  have hall := collect_all h (2 * t.length + 4) (Cursor.start t) none []
    (by simp only [Cursor.start]; omega)
  rw [of, hengine]
  exact hall

theorem of_first (h : p.Finds f) (t : Text) :
    of p (some 1) t =
      match f.first? t with
      | none => ⟨[], t, false⟩
      | some hit => ⟨[hit], hit.groups.after, false⟩ := by
  have hengine : (p.engine == .backtracking) = false := by rw [h.linear]; rfl
  rw [of, hengine]
  rw [collect_eq h (2 * t.length + 3) (by simp : some 1 ≠ some 0)]
  have hstart : (Cursor.start t).rest = t := rfl
  rw [hstart]
  cases hf : f.first? t with
  | none => rfl
  | some hit =>
    have hrest : t.drop (hit.gap.length + hit.groups.whole.length) = hit.groups.after := by
      rw [(Form.of_first? hf).1, ← List.append_assoc]
      exact List.drop_left' (List.length_append ..)
    simp [collect, hstart, hrest]

end Scan

/-- The first match of a pattern in a text, if the pattern can be read. -/
def Pattern.firstHit (pattern : Except PatternError Pattern) (t : Text) : Option Hit :=
  match pattern with
  | .error _ => none
  | .ok p => (Scan.of p (some 1) t).hits.head?

theorem Pattern.firstHit_eq {p : Pattern} {f : Form} (h : p.Finds f) (t : Text) :
    firstHit (.ok p) t = f.first? t := by
  rw [firstHit, Scan.of_first h]
  cases f.first? t <;> rfl

end BundleHardening
