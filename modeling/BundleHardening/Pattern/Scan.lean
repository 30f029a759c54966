import BundleHardening.Groups
import BundleHardening.Pattern.Basic

/-!
# All matches of a pattern

The matches of a pattern in a text, from the left.  A match of the empty text right behind another
match is passed over.  Replacing cuts the text at the matches and puts something else in the place
of each.  Each search begins where the match before ended, but a look-behind that moves the beginning
of the match may move it to before its search; where the match then overlaps the one in front of it,
replacing panics.
-/

set_option autoImplicit false

namespace BundleHardening

/-- One match in a scan: the text since the previous match, and the groups. -/
structure Hit where
  gap : Text
  groups : Groups

namespace Hit

/-- Whether the match begins before the end of the one in front of it. -/
def overlaps (hit before : Hit) : Bool :=
  before.groups.after.length < hit.groups.whole.length + hit.groups.after.length

/-- Whether one of the matches overlaps the one in front of it. -/
def anyOverlaps : List Hit → Bool
  | before :: hit :: hits => hit.overlaps before || anyOverlaps (hit :: hits)
  | _ => false

/-- The matches in front of the first that overlaps the one in front of it. -/
def untilOverlap : List Hit → List Hit
  | before :: hit :: hits => if hit.overlaps before then [before] else before :: untilOverlap (hit :: hits)
  | hits => hits

end Hit

/-- The matches of a scan, the text behind the last one, and whether the scan was aborted. -/
structure Scan where
  hits : List Hit
  tail : Text
  aborted : Bool

namespace Scan

/-- The groups of a match. -/
def groupsOf (f : Found) : Groups where
  groups := some (f.first.upTo f.last) :: f.groups.map (·.map fun (first, last) => first.upTo last)
  after := f.last.rest

/-- The matches at and after `from_`.  `cut` is where the previous match ended or the text began, and
`taken` where a match ended last, if any.  At most `limit` matches are collected, if there is a
limit, and the scan goes on for one more when `ahead` is set. -/
def collect (p : Pattern) (ahead : Bool) : (fuel : Nat) → (limit : Option Nat) → (from_ : Option Cursor) →
    (cut : Cursor) → (taken : Option Nat) → List Hit → Scan
  | 0, _, _, cut, _, hits => ⟨hits.reverse, cut.rest, false⟩
  | _, _, none, cut, _, hits => ⟨hits.reverse, cut.rest, false⟩
  | fuel + 1, limit, some start, cut, taken, hits =>
    if limit == some 0 && !ahead then ⟨hits.reverse, cut.rest, false⟩
    else
      match p.find start with
      | .nowhere => ⟨hits.reverse, cut.rest, false⟩
      | .aborted => ⟨hits.reverse, cut.rest, true⟩
      | .found f =>
        let isEmpty := f.first.index == f.last.index
        let next := if isEmpty then f.last.next? else some f.last
        if isEmpty && taken == some f.last.index then
          collect p ahead fuel limit next cut taken hits
        else if limit == some 0 then ⟨hits.reverse, cut.rest, false⟩
        else
          collect p ahead fuel (limit.map (· - 1)) next f.last (some f.last.index)
            (⟨cut.upTo f.first, groupsOf f⟩ :: hits)

/-- The matches of a pattern in a text, the first `limit` of them if there is a limit.  Matching by
trial looks for one match more than the limit, and may be aborted there. -/
def of (p : Pattern) (limit : Option Nat) (t : Text) : Scan :=
  let start := Cursor.start t
  collect p (p.engine == .backtracking) (2 * t.length + 4) limit (some start) start none []

/-- Whether replacing panics, for a match that overlaps the one in front of it. -/
def overlaps (s : Scan) : Bool :=
  Hit.anyOverlaps s.hits

/-- The matches that replacing gets to: all of them, unless it panics. -/
def reached (s : Scan) : List Hit :=
  Hit.untilOverlap s.hits

/-- The text with something else in the place of each match.  Where matches overlap there is no such text,
and `overlaps` is to be asked before. -/
def fill (s : Scan) (replacements : List Text) : Text :=
  ((s.hits.zip replacements).flatMap fun (hit, new) => hit.gap ++ new) ++ s.tail

end Scan

namespace Pattern

/-- The first match in a text, as byte offsets. -/
def findIn (p : Pattern) (t : Text) : Except PatternError (Option (Nat × Nat)) :=
  match p.find (Cursor.start t) with
  | .found f => .ok (some (f.first.byteOffset, f.last.byteOffset))
  | .nowhere => .ok none
  | .aborted => .error .aborted

/-- What a group matched, for each match in which it took part. -/
def groupValues (p : Pattern) (t : Text) (index : Nat) : Except PatternError (List Text) :=
  let scan := Scan.of p none t
  if scan.aborted then .error .aborted
  else .ok (scan.hits.filterMap fun hit => hit.groups.get? index)

/-- The text with each of the first `limit` matches replaced by a text computed from its groups;
`none` when nothing matches.  A match that overlaps the one in front of it comes before an abort, which
ends the scan. -/
def replaceWith (p : Pattern) (t : Text) (limit : Option Nat) (replacement : Groups → Text) :
    Except PatternError (Option Text) :=
  let scan := Scan.of p limit t
  if scan.overlaps then .error .overlapping
  else if scan.aborted then .error .aborted
  else if scan.hits.isEmpty then .ok none
  else .ok (some (scan.fill (scan.hits.map fun hit => replacement hit.groups)))

end Pattern

end BundleHardening
