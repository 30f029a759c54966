import BundleHardening.Proofs.Pattern.Abort
import BundleHardening.Proofs.Pattern.Trials

/-!
# Replacing touches matches only

The matches of a scan lie one behind another in the text: each begins where the one before it ended or
further on, and no two begin at one place.  So replacing them leaves what lies between them as it is,
and a limit on their number leaves out matches at the end only (`Pattern.replaceWith_handed`).

This needs that no search finds a match which begins before it (`Pattern.lies_of_find`).  A look-behind
that moves the beginning of the match brings forth such a match, and two matches may then overlap
(`Pattern.overlapping_not_apart`), so that replacing panics (`Pattern.replaceWith_overlapping`).
-/

set_option autoImplicit false

namespace BundleHardening

/-- Whether a match may begin before the search. -/
def Pattern.reachesBack (p : Pattern) : Bool :=
  match p.matcher with
  | .threads _ => false
  | .trials code _ => code.reachesBack

/-! ## One search -/

/-- The match lies in the text, from an index on. -/
structure Found.Lies (f : Found) (t : Text) (low : Nat) : Prop where
  first_in : f.first.IsIn t
  last_in : f.last.IsIn t
  low_le : low ≤ f.first.index
  first_le : f.first.index ≤ f.last.index

namespace Pattern

variable {p : Pattern} {t : Text} {start : Cursor} {f : Found}

/-- A pattern that is read is matched in one pass as the work of a regular one, or by trial. -/
theorem IsRead.matcher_eq (h : p.IsRead) :
    (∃ r, p.matcher = .threads (Node.ofPattern r)) ∨
      ∃ code registers, p.matcher = .trials code registers := by
  obtain ⟨written, h | h⟩ := h
  · obtain ⟨r, rfl⟩ := exists_of_linear? h
    exact Or.inl ⟨r, rfl⟩
  · rw [backtracking?] at h
    split at h
    · cases h
    · split at h
      · split at h <;> cases h
        exact Or.inr ⟨_, _, rfl⟩
      · split at h <;> cases h
        exact Or.inl ⟨_, rfl⟩

/-- A pattern of the linear dialect is matched from each search on. -/
theorem IsRead.reachesBack_of_linear (h : p.IsRead) (hlinear : p.engine = .linear) :
    p.reachesBack = false := by
  obtain ⟨written, h | h⟩ := h
  · obtain ⟨r, rfl⟩ := exists_of_linear? h
    rfl
  · rw [engine_of_backtracking? h] at hlinear
    cases hlinear

theorem span_of_foundOf {groups : Nat} {span : Nat → Option (Cursor × Cursor)}
    (h : foundOf groups span = .found f) : span 0 = some (f.first, f.last) := by
  rw [foundOf] at h
  split at h
  · next first last hspan =>
    cases h
    exact hspan
  · cases h

theorem at?_of_spanOf {marks : Marks} {first last : Cursor} (h : spanOf marks 0 = some (first, last)) :
    marks.at? 0 = some first ∧ marks.at? 1 = some last := by
  rw [spanOf] at h
  split at h
  · next hfirst hlast =>
    cases h
    exact ⟨hfirst, hlast⟩
  · cases h

theorem lies_of_recorded {marks : Marks} {r : Regular} {low : Nat}
    (h : marks.Recorded t low (Node.ofPattern r)) (hspan : spanOf marks 0 = some (f.first, f.last)) :
    f.Lies t low := by
  obtain ⟨hfirst, hlast⟩ := at?_of_spanOf hspan
  obtain ⟨last, hend, hle⟩ := h.up_to_end rfl
  obtain rfl : f.last = last := Option.some.inj (hlast.symm.trans hend)
  have hmem := Marks.mem_of_at? hfirst
  exact ⟨(h.from_low _ hmem).1, (h.from_low _ (Marks.mem_of_at? hlast)).1, (h.from_low _ hmem).2,
    hle _ hmem⟩

/-- A match lies in the text from where the search began on. -/
theorem lies_of_find (hread : p.IsRead) (hback : p.reachesBack = false) (hin : start.IsIn t)
    (h : p.find start = .found f) : f.Lies t start.index := by
  rcases hread.matcher_eq with ⟨r, hmatcher⟩ | ⟨code, registers, hmatcher⟩
  · rw [find, hmatcher] at h
    dsimp only at h
    split at h
    · next marks hrun => exact lies_of_recorded (Search.recorded_run hin hrun) (span_of_foundOf h)
    · cases h
  · rw [reachesBack, hmatcher] at hback
    rw [find, hmatcher] at h
    dsimp only at h
    split at h
    · next r hsearch =>
      have hplaced := Trial.placed_search hin hback hsearch
      obtain ⟨hlast, hfirst | hfirst⟩ := Registers.group?_capped (span_of_foundOf h)
      · obtain ⟨hfirst, hle⟩ := hfirst
        exact ⟨(hplaced.first _ hfirst).1, (hplaced.last _ hlast).1, (hplaced.first _ hfirst).2, hle⟩
      · rw [← hfirst] at hlast
        have hboth := hplaced.last _ hlast
        exact ⟨hboth.1, hfirst ▸ hboth.1, hboth.2, hfirst ▸ Nat.le_refl _⟩
    · cases h
    · cases h

end Pattern

/-! ## All matches of a scan -/

namespace Groups

/-- Where the match ends in the text. -/
def stop (t : Text) (g : Groups) : Nat :=
  t.length - g.after.length

/-- Where the match begins in the text. -/
def start (t : Text) (g : Groups) : Nat :=
  g.stop t - g.whole.length

/-- The groups are those of a match between two indices of the text. -/
structure LiesAt (g : Groups) (t : Text) (first last : Nat) : Prop where
  first_le : first ≤ last
  last_le : last ≤ t.length
  whole? : g.get? 0 = some ((t.drop first).take (last - first))
  after : g.after = t.drop last

variable {g : Groups} {t : Text} {first last : Nat}

theorem LiesAt.whole (h : g.LiesAt t first last) : g.whole = (t.drop first).take (last - first) := by
  rw [Groups.whole, get, h.whole?, Option.getD_some]

theorem LiesAt.stop_eq (h : g.LiesAt t first last) : g.stop t = last := by
  have hlast := h.last_le
  rw [stop, h.after, List.length_drop]
  omega

theorem LiesAt.start_eq (h : g.LiesAt t first last) : g.start t = first := by
  have hfirst := h.first_le
  have hlast := h.last_le
  rw [start, h.stop_eq, h.whole, List.length_take, List.length_drop]
  omega

/-- The text around the match. -/
theorem LiesAt.drop_eq (h : g.LiesAt t first last) : t.drop first = g.whole ++ g.after := by
  have hfirst := h.first_le
  rw [h.whole, h.after]
  have hdrop : t.drop last = (t.drop first).drop (last - first) := by
    rw [List.drop_drop, Nat.add_sub_cancel' hfirst]
  rw [hdrop, List.take_append_drop]

end Groups

/-- The groups handed over for a match that lies in the text. -/
theorem Found.Lies.liesAt {f : Found} {t : Text} {low : Nat} (h : f.Lies t low) :
    (Scan.groupsOf f).LiesAt t f.first.index f.last.index where
  first_le := h.first_le
  last_le := h.last_in.index_le
  whole? := congrArg some (h.first_in.upTo_eq f.last)
  after := h.last_in.rest_eq

namespace Scan

/-- The hits lie one behind another: the next one begins at the index `low` or further on, and its gap
begins at `cut`.  Behind an empty one the next begins at least one character on. -/
def Laid (t tail : Text) : (low cut : Nat) → List Hit → Prop
  | _, cut, [] => tail = t.drop cut
  | low, cut, hit :: hits => ∃ first last, low ≤ first ∧ cut ≤ first ∧
      hit.groups.LiesAt t first last ∧ hit.gap = (t.drop cut).take (first - cut) ∧
        Laid t tail (if first = last then last + 1 else last) last hits

/-- The scan with a hit before its others. -/
def push (hit : Hit) (s : Scan) : Scan :=
  { s with hits := hit :: s.hits }

variable {p : Pattern} {t : Text}

/-- What is collected is put behind the hits collected before. -/
theorem collect_append (p : Pattern) (ahead : Bool) : ∀ (fuel : Nat) (limit : Option Nat)
    (from_ : Option Cursor) (cut : Cursor) (taken : Option Nat) (hits : List Hit),
    collect p ahead fuel limit from_ cut taken hits =
      let rest := collect p ahead fuel limit from_ cut taken []
      { rest with hits := hits.reverse ++ rest.hits } := by
  intro fuel
  induction fuel with
  | zero =>
    intro limit from_ cut taken hits
    simp [collect]
  | succ fuel ih =>
    intro limit from_ cut taken hits
    cases from_ with
    | none => simp [collect]
    | some start =>
      rw [collect, collect]
      split
      · simp
      · split
        · simp
        · simp
        · dsimp only
          split
          · exact ih ..
          · split
            · simp
            · rw [ih _ _ _ _ (_ :: hits), ih _ _ _ _ [_]]
              simp

/-- One search of a scan: it ends the scan, is passed over, or adds a hit. -/
theorem collect_succ (p : Pattern) (ahead : Bool) (fuel : Nat) (limit : Option Nat) (start cut : Cursor)
    (taken : Option Nat) :
    collect p ahead (fuel + 1) limit (some start) cut taken [] =
      if limit == some 0 && !ahead then ⟨[], cut.rest, false⟩
      else
        match p.find start with
        | .nowhere => ⟨[], cut.rest, false⟩
        | .aborted => ⟨[], cut.rest, true⟩
        | .found f =>
          let next := if f.first.index == f.last.index then f.last.next? else some f.last
          if f.first.index == f.last.index && taken == some f.last.index then
            collect p ahead fuel limit next cut taken []
          else if limit == some 0 then ⟨[], cut.rest, false⟩
          else
            (collect p ahead fuel (limit.map (· - 1)) next f.last (some f.last.index) []).push
              ⟨cut.upTo f.first, groupsOf f⟩ := by
  rw [collect]
  split
  · rfl
  · cases p.find start with
    | nowhere => rfl
    | aborted => rfl
    | found f =>
      dsimp only
      split
      · rfl
      · split
        · rfl
        · rw [collect_append]
          rfl

/-- The next search begins no earlier than the match ended, and behind an empty match further on. -/
theorem next_of_lies {f : Found} {low : Nat} (h : f.Lies t low) {start : Cursor}
    (hnext : (if f.first.index == f.last.index then f.last.next? else some f.last) = some start) :
    start.IsIn t ∧
      (if f.first.index = f.last.index then f.last.index + 1 else f.last.index) ≤ start.index := by
  by_cases hempty : f.first.index = f.last.index
  · rw [if_pos (beq_iff_eq.mpr hempty)] at hnext
    obtain ⟨hin, hindex⟩ := h.last_in.next? hnext
    exact ⟨hin, Nat.le_of_eq ((if_pos hempty).trans hindex.symm)⟩
  · rw [if_neg (by simpa using hempty)] at hnext
    cases hnext
    exact ⟨h.last_in, Nat.le_of_eq (if_neg hempty)⟩

/-- The hits of a scan lie one behind another. -/
theorem laid_collect (hfind : ∀ start f, start.IsIn t → p.find start = .found f → f.Lies t start.index)
    (ahead : Bool) : ∀ (fuel : Nat) (limit : Option Nat) (from_ : Option Cursor) (cut : Cursor)
      (taken : Option Nat) (low : Nat), cut.IsIn t →
      (∀ start, from_ = some start → start.IsIn t ∧ cut.index ≤ start.index ∧ low ≤ start.index) →
      let scan := collect p ahead fuel limit from_ cut taken []
      Laid t scan.tail low cut.index scan.hits := by
  intro fuel
  induction fuel with
  | zero =>
    intro limit from_ cut taken low hcut _
    rw [collect]
    exact hcut.rest_eq
  | succ fuel ih =>
    intro limit from_ cut taken low hcut hfrom
    cases from_ with
    | none =>
      rw [collect]
      · exact hcut.rest_eq
      · exact Nat.succ_ne_zero fuel
    | some start =>
      obtain ⟨hin, hcutle, hlow⟩ := hfrom start rfl
      rw [collect_succ]
      split
      · exact hcut.rest_eq
      · split
        · exact hcut.rest_eq
        · exact hcut.rest_eq
        · next f hfound =>
          have hlies := hfind start f hin hfound
          have hnext := fun next => @next_of_lies t f start.index hlies next
          have hfirst := hlies.low_le
          have hlast := hlies.first_le
          dsimp only
          split
          -- An empty match right behind another is passed over, and nothing is cut.
          · refine ih _ _ _ _ _ hcut fun next heq => ?_
            obtain ⟨hnextin, hle⟩ := hnext next heq
            refine ⟨hnextin, ?_, ?_⟩ <;> split at hle <;> omega
          · split
            · exact hcut.rest_eq
            · refine ⟨f.first.index, f.last.index, by omega, by omega, hlies.liesAt, hcut.upTo_eq _, ?_⟩
              refine ih _ _ _ _ _ hlies.last_in fun next heq => ?_
              obtain ⟨hnextin, hle⟩ := hnext next heq
              exact ⟨hnextin, by split at hle <;> omega, hle⟩

theorem hits_collect_zero (p : Pattern) (ahead : Bool) : ∀ (fuel : Nat) (from_ : Option Cursor)
    (cut : Cursor) (taken : Option Nat),
    (collect p ahead fuel (some 0) from_ cut taken []).hits = [] := by
  intro fuel
  induction fuel with
  | zero =>
    intro from_ cut taken
    simp [collect]
  | succ fuel ih =>
    intro from_ cut taken
    cases from_ with
    | none => simp [collect]
    | some start =>
      rw [collect_succ]
      split
      · rfl
      · cases p.find start with
        | nowhere => rfl
        | aborted => rfl
        | found f =>
          dsimp only
          split
          · exact ih ..
          · rfl

/-- A limit leaves out hits at the end. -/
theorem hits_collect_limited (p : Pattern) (ahead : Bool) : ∀ (fuel n : Nat) (from_ : Option Cursor)
    (cut : Cursor) (taken : Option Nat),
    (collect p ahead fuel (some n) from_ cut taken []).hits =
      (collect p ahead fuel none from_ cut taken []).hits.take n := by
  intro fuel
  induction fuel with
  | zero =>
    intro n from_ cut taken
    simp [collect]
  | succ fuel ih =>
    intro n from_ cut taken
    cases n with
    | zero => rw [hits_collect_zero, List.take_zero]
    | succ n =>
      cases from_ with
      | none => simp [collect]
      | some start =>
        have hmore : (some (n + 1) == some 0) = false := by simp
        have hnone : ((none : Option Nat) == some 0) = false := rfl
        rw [collect_succ, collect_succ, hmore, hnone]
        simp only [Bool.false_and, Bool.false_eq_true, if_false]
        cases p.find start with
        | nowhere => rfl
        | aborted => rfl
        | found f =>
          dsimp only
          split
          · exact ih ..
          · simp only [push, Option.map_some, Option.map_none, Nat.add_sub_cancel, ih,
              List.take_succ_cons]

/-- Every hit of a layout lies in the text, from the index on. -/
theorem Laid.exists_liesAt {tail : Text} {low cut : Nat} {hits : List Hit}
    (h : Laid t tail low cut hits) {hit : Hit} (hmem : hit ∈ hits) : ∃ first last, low ≤ first ∧ hit.groups.LiesAt t first last := by
  induction hits generalizing low cut with
  | nil => cases hmem
  | cons hit' hits ih =>
    obtain ⟨first, last, hlow, -, hlies, -, hlater⟩ := h
    rcases List.mem_cons.mp hmem with rfl | hmem
    · exact ⟨first, last, hlow, hlies⟩
    · obtain ⟨first', last', hle, hlies'⟩ := ih hlater hmem
      have hfirst := hlies.first_le
      exact ⟨first', last', by split at hle <;> omega, hlies'⟩

/-- The matches of a layout begin one behind another, and none before the end of an earlier one. -/
theorem Laid.pairwise {tail : Text} {low cut : Nat} {hits : List Hit} (h : Laid t tail low cut hits) :
    (hits.map (·.groups)).Pairwise
      fun g later => g.start t < later.start t ∧ g.stop t ≤ later.start t := by
  induction hits generalizing low cut with
  | nil => exact .nil
  | cons hit hits ih =>
    obtain ⟨first, last, -, -, hlies, -, hlater⟩ := h
    refine List.pairwise_cons.mpr ⟨fun g hg => ?_, ih hlater⟩
    obtain ⟨hit', hmem, rfl⟩ := List.mem_map.mp hg
    obtain ⟨first', last', hle, hlies'⟩ := hlater.exists_liesAt hmem
    have hfirst := hlies.first_le
    rw [hlies.start_eq, hlies.stop_eq, hlies'.start_eq]
    split at hle <;> omega

/-- Matches that lie one behind another do not overlap. -/
theorem Laid.anyOverlaps {tail : Text} {low cut : Nat} {hits : List Hit} (h : Laid t tail low cut hits) :
    Hit.anyOverlaps hits = false := by
  induction hits generalizing low cut with
  | nil => rfl
  | cons before hits ih =>
    obtain ⟨first, last, -, -, hbefore, -, hlater⟩ := h
    cases hits with
    | nil => rfl
    | cons hit hits =>
      have hrest := ih hlater
      obtain ⟨first', last', -, hle, hhit, -, -⟩ := hlater
      have hlength : hit.groups.whole.length + hit.groups.after.length = t.length - first' := by
        rw [← List.length_append, ← hhit.drop_eq, List.length_drop]
      have happart : hit.overlaps before = false := by
        rw [Hit.overlaps, hlength, hbefore.after, List.length_drop]
        exact decide_eq_false (by omega)
      rw [Hit.anyOverlaps, happart, hrest]
      rfl

end Scan

/-- Where no matches overlap, replacing gets to all of them. -/
theorem Hit.untilOverlap_eq_self {hits : List Hit} (h : Hit.anyOverlaps hits = false) :
    Hit.untilOverlap hits = hits := by
  induction hits with
  | nil => rfl
  | cons before hits ih =>
    cases hits with
    | nil => rfl
    | cons hit hits =>
      obtain ⟨hapart, hlater⟩ := Bool.or_eq_false_iff.mp h
      rw [Hit.untilOverlap, hapart, if_neg Bool.false_ne_true, ih hlater]

theorem Scan.reached_eq_hits {scan : Scan} (h : scan.overlaps = false) : scan.reached = scan.hits :=
  Hit.untilOverlap_eq_self h

/-- The text from the index on, with the text given for each match in its place. -/
def spliced (t : Text) : (cut : Nat) → List (Groups × Text) → Text
  | cut, [] => t.drop cut
  | cut, (g, new) :: rest =>
    (t.drop cut).take (g.start t - cut) ++ new ++ spliced t (g.stop t) rest

namespace Scan

variable {t tail : Text}

theorem Laid.fill_eq {low cut : Nat} {hits : List Hit} (h : Laid t tail low cut hits) (aborted : Bool)
    {news : List Text} (hnews : news.length = hits.length) :
    fill ⟨hits, tail, aborted⟩ news = spliced t cut ((hits.map (·.groups)).zip news) := by
  induction hits generalizing low cut news with
  | nil => exact h
  | cons hit hits ih =>
    obtain ⟨first, last, -, -, hlies, hgap, hlater⟩ := h
    cases news with
    | nil => cases hnews
    | cons new news =>
      have hrest := ih hlater (Nat.succ.inj hnews)
      simp only [fill, List.map_cons, List.zip_cons_cons, List.flatMap_cons, spliced, hlies.start_eq,
        hlies.stop_eq, ← hrest, hgap, List.append_assoc]

/-- The texts may be computed from the matches. -/
theorem Laid.fill_map {low cut : Nat} {hits : List Hit} (h : Laid t tail low cut hits) (aborted : Bool)
    (new : Groups → Text) :
    fill ⟨hits, tail, aborted⟩ (hits.map fun hit => new hit.groups) =
      spliced t cut ((hits.map (·.groups)).map fun g => (g, new g)) := by
  rw [h.fill_eq aborted (List.length_map _), List.map_map]
  exact congrArg _ (List.zip_map' ..)

/-- Putting every match in its own place gives the text. -/
theorem Laid.spliced_whole {low cut : Nat} {hits : List Hit} (h : Laid t tail low cut hits) :
    spliced t cut (hits.map fun hit => (hit.groups, hit.groups.whole)) = t.drop cut := by
  induction hits generalizing low cut with
  | nil => rfl
  | cons hit hits ih =>
    obtain ⟨first, last, -, hcut, hlies, -, hlater⟩ := h
    rw [List.map_cons, spliced, hlies.start_eq, hlies.stop_eq, ih hlater, ← hlies.after,
      List.append_assoc, ← hlies.drop_eq]
    have hdrop : t.drop first = (t.drop cut).drop (first - cut) := by
      rw [List.drop_drop, Nat.add_sub_cancel' hcut]
    rw [hdrop, List.take_append_drop]

end Scan

namespace Pattern

/-- The limit on the number of matches that a number stands for; zero stands for none. -/
def limitOf (n : Nat) : Option Nat :=
  if n = 0 then none else some n

/-- The matches handed to a replacement of at most so many. -/
def handed (p : Pattern) (n : Nat) (t : Text) : List Groups :=
  (Scan.of p (limitOf n) t).hits.map (·.groups)

variable {p : Pattern}

theorem laid_of (hread : p.IsRead) (hback : p.reachesBack = false) (limit : Option Nat) (t : Text) :
    Scan.Laid t (Scan.of p limit t).tail 0 0 (Scan.of p limit t).hits := by
  refine Scan.laid_collect (fun _ _ hin hfound => lies_of_find hread hback hin hfound) _ _ limit _
    (Cursor.start t) none 0 (Cursor.isIn_start t) fun start hstart => ?_
  cases hstart
  exact ⟨Cursor.isIn_start t, Nat.le_refl _, Nat.zero_le _⟩

/-- Replacing panics for a pattern alone that may match from before its search on. -/
theorem overlaps_of (hread : p.IsRead) (hback : p.reachesBack = false) (limit : Option Nat) (t : Text) :
    (Scan.of p limit t).overlaps = false :=
  (laid_of hread hback limit t).anyOverlaps

theorem handed_eq_take (p : Pattern) {n : Nat} (hn : 0 < n) (t : Text) :
    p.handed n t = (p.handed 0 t).take n := by
  rw [handed, limitOf, if_neg (Nat.ne_of_gt hn), handed, ← List.map_take]
  exact congrArg _ (Scan.hits_collect_limited p _ _ n _ _ _)

/-- The result of a replacement is the text with the new texts in the place of the matches. -/
theorem replaceWith_eq (hread : p.IsRead) (hback : p.reachesBack = false) (n : Nat) (t : Text)
    (new : Groups → Text) :
    p.replaceWith t (limitOf n) new =
      if (Scan.of p (limitOf n) t).aborted then .error .aborted
      else .ok (if p.handed n t = [] then none
        else some (spliced t 0 ((p.handed n t).map fun g => (g, new g)))) := by
  have hlaid := laid_of hread hback (limitOf n) t
  simp only [replaceWith, overlaps_of hread hback, Bool.false_eq_true, if_false]
  rw [handed]
  generalize Scan.of p (limitOf n) t = scan at hlaid
  obtain ⟨hits, tail, aborted⟩ := scan
  cases aborted with
  | true => rfl
  | false =>
    cases hits with
    | nil => rfl
    | cons hit hits =>
      have hfill := hlaid.fill_map false new
      exact congrArg (fun out => Except.ok (some out)) hfill

/-- Replacing every match with itself gives the text. -/
theorem replaceWith_whole (hread : p.IsRead) (hback : p.reachesBack = false) {n : Nat} {t : Text}
    {out : Option Text} (h : p.replaceWith t (limitOf n) Groups.whole = .ok out) : out.getD t = t := by
  have hspliced : spliced t 0 ((p.handed n t).map fun g => (g, g.whole)) = t := by
    rw [handed, List.map_map]
    exact (laid_of hread hback (limitOf n) t).spliced_whole
  rw [replaceWith_eq hread hback, hspliced] at h
  split at h
  · cases h
  · cases h
    split <;> rfl

/-- The values of group zero are the matches. -/
theorem groupValues_zero (hread : p.IsRead) (hback : p.reachesBack = false) {t : Text}
    {values : List Text} (h : p.groupValues t 0 = .ok values) :
    values = (p.handed 0 t).map Groups.whole := by
  rw [groupValues] at h
  split at h
  · cases h
  · cases h
    rw [handed, List.map_map, ← List.filterMap_eq_map]
    refine List.filterMap_congr fun hit hmem => ?_
    obtain ⟨first, last, -, hlies⟩ := (laid_of hread hback none t).exists_liesAt hmem
    rw [hlies.whole?, Function.comp_apply, Function.comp_apply, hlies.whole]

/-- Replacing touches matches only.  The matches handed over begin one behind another, none before the end
of an earlier one, and each stands in the text between what comes before and what comes after it.  The
result is the text with the given texts in the place of exactly these matches, whatever texts are
given; with the matches themselves it is the text as it was.  A limit hands over the first so many
of all matches.  The values of group zero are the matches in the same order. -/
theorem replaceWith_handed (hread : p.IsRead) (hback : p.reachesBack = false) (n : Nat) (t : Text) :
    (p.handed n t).Pairwise (fun g later => g.start t < later.start t ∧ g.stop t ≤ later.start t) ∧
    (∀ g ∈ p.handed n t, t = t.take (g.start t) ++ g.whole ++ g.after) ∧
    (∀ news, news.length = (p.handed n t).length →
      (Scan.of p (limitOf n) t).fill news = spliced t 0 ((p.handed n t).zip news)) ∧
    (∀ new : Groups → Text, p.replaceWith t (limitOf n) new =
      if (Scan.of p (limitOf n) t).aborted then .error .aborted
      else .ok (if p.handed n t = [] then none
        else some (spliced t 0 ((p.handed n t).map fun g => (g, new g))))) ∧
    (∀ out, p.replaceWith t (limitOf n) Groups.whole = .ok out → out.getD t = t) ∧
    (0 < n → p.handed n t = (p.handed 0 t).take n) ∧
    (∀ values, p.groupValues t 0 = .ok values → values = (p.handed 0 t).map Groups.whole) := by
  have hlaid := laid_of hread hback (limitOf n) t
  refine ⟨hlaid.pairwise, fun g hg => ?_, fun news hnews => ?_, replaceWith_eq hread hback n t,
    fun out => replaceWith_whole hread hback, fun hn => p.handed_eq_take hn t,
    fun values => groupValues_zero hread hback⟩
  · obtain ⟨hit, hmem, rfl⟩ := List.mem_map.mp hg
    obtain ⟨first, last, -, hlies⟩ := hlaid.exists_liesAt hmem
    rw [hlies.start_eq, List.append_assoc, ← hlies.drop_eq, List.take_append_drop]
  · exact hlaid.fill_eq _ (by simpa [handed] using hnews)

section Sample

/-- The letter b, or nothing, behind the letter a. -/
def behindLetter : Pattern where
  written := "(?<=a)b?".toList
  engine := .backtracking
  groups := 1
  matcher := .trials (.seq .nothing (.seq (.around 1 (.one (.single 'a')))
    (.seq (.optional true (.one (.single 'b'))) .nothing))) 1

theorem isRead_behindLetter : behindLetter.IsRead := by
  have hread : Extended.ofText? "(?<=a)b?".toList =
      some (.seq [.around false true (.set (.single 'a')),
        .times 0 (some 1) true (.set (.single 'b'))], 1, []) := rfl
  exact .of_ofText (ofText_of_code rfl hread rfl rfl)

theorem handed_behindLetter : behindLetter.handed 0 "abaa".toList =
    [⟨[some ['b']], ['a', 'a']⟩, ⟨[some []], ['a']⟩, ⟨[some []], []⟩] := by
  decide +kernel

/-- The first two of three matches are replaced, of which the second is empty. -/
theorem replaceWith_handed_behindLetter : behindLetter.IsRead ∧ behindLetter.reachesBack = false ∧
    behindLetter.handed 2 "abaa".toList = [⟨[some ['b']], ['a', 'a']⟩, ⟨[some []], ['a']⟩] ∧
    ∀ news, news.length = (behindLetter.handed 2 "abaa".toList).length →
      (Scan.of behindLetter (some 2) "abaa".toList).fill news =
        spliced "abaa".toList 0 ((behindLetter.handed 2 "abaa".toList).zip news) := by
  obtain ⟨-, -, hfill, -, -, htake, -⟩ :=
    replaceWith_handed isRead_behindLetter rfl 2 "abaa".toList
  refine ⟨isRead_behindLetter, rfl, ?_, hfill⟩
  rw [htake (by decide), handed_behindLetter]
  rfl

/-- A letter behind another one, at which the match is said to begin. -/
def overlapping : Pattern where
  written := "(?<=\\Ka)b|(?<=\\Kb)c".toList
  engine := .backtracking
  groups := 1
  matcher :=
    let behind (letter : Char) : Code :=
      .around 1 (.seq .nothing (.seq (.mark 0) (.one (.single letter))))
    .trials (.choice (.seq .nothing (.seq (behind 'a') (.one (.single 'b'))))
      (.seq .nothing (.seq (behind 'b') (.one (.single 'c'))))) 0

theorem ofText_overlapping : ofText overlapping.written = .ok overlapping := by
  let behind (letter : Char) : Extended := .around false true (.seq [.keepOut, .set (.single letter)])
  have hread : Extended.ofText? overlapping.written =
      some (.alt [.seq [behind 'a', .set (.single 'b')], .seq [behind 'b', .set (.single 'c')]],
        1, []) := rfl
  exact ofText_of_code rfl hread rfl rfl

theorem handed_overlapping : overlapping.handed 0 "abc".toList =
    [⟨[some ['a', 'b']], ['c']⟩, ⟨[some ['b', 'c']], []⟩] := by
  decide +kernel

/-- The second match begins before the end of the first. -/
theorem overlapping_not_apart : ofText overlapping.written = .ok overlapping ∧
    overlapping.groupValues "abc".toList 0 = .ok ["ab".toList, "bc".toList] ∧
    ¬(overlapping.handed 0 "abc".toList).Pairwise fun g later =>
      g.stop "abc".toList ≤ later.start "abc".toList := by
  refine ⟨ofText_overlapping, ?_, ?_⟩
  · decide +kernel
  · rw [handed_overlapping]
    decide

/-- Between the two matches no text can be cut out. -/
theorem replaceWith_overlapping (new : Groups → Text) :
    overlapping.replaceWith "abc".toList none new = .error .overlapping := by
  have hscan : (Scan.of overlapping none "abc".toList).overlaps = true := by decide +kernel
  simp only [replaceWith, hscan, if_true]

end Sample

end Pattern

end BundleHardening
