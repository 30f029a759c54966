/-!
# Tables of character ranges

A property of characters is kept as an ascending table of inclusive code point ranges and looked up
by halving.  Tables are written as lines of text: hexadecimal code points, `lo-hi` for a range,
separated by blanks.  All tables of this library are those of Unicode 16.0.
-/

set_option autoImplicit false

namespace BundleHardening

/-- An ascending table of disjoint inclusive ranges of code points. -/
structure Ranges where
  bounds : Array (Nat × Nat)

namespace Ranges

/-- The table that holds no character. -/
def empty : Ranges := ⟨#[]⟩

/-- The value of one hexadecimal digit; other characters count as zero. -/
def hexDigit (c : Char) : Nat :=
  if c.isDigit then c.toNat - '0'.toNat
  else if 'a' ≤ c ∧ c ≤ 'f' then c.toNat - 'a'.toNat + 10
  else if 'A' ≤ c ∧ c ≤ 'F' then c.toNat - 'A'.toNat + 10
  else 0

/-- The number that a text of hexadecimal digits stands for. -/
def hexValue (s : String) : Nat :=
  s.toList.foldl (fun n c => n * 16 + hexDigit c) 0

/-- Reads the written form of a table. -/
def ofHex (lines : List String) : Ranges where
  bounds := ((lines.flatMap (·.toList.splitOn ' ')).map fun entry =>
    match entry.splitOn '-' with
    | [lo, hi] => (hexValue (String.ofList lo), hexValue (String.ofList hi))
    | _ => (hexValue (String.ofList entry), hexValue (String.ofList entry))).toArray

/-- Looks for `n` among the entries from `lo` up to `hi`, halving at most `fuel` times. -/
def search (bounds : Array (Nat × Nat)) (n : Nat) : (fuel lo hi : Nat) → Bool
  | 0, _, _ => false
  | fuel + 1, lo, hi =>
    if lo < hi then
      let mid := (lo + hi) / 2
      match bounds[mid]? with
      | none => false
      | some (first, last) =>
        if n < first then search bounds n fuel lo mid
        else if last < n then search bounds n fuel (mid + 1) hi
        else true
    else false

/-- Whether the table holds the code point. -/
def contains (table : Ranges) (n : Nat) : Bool :=
  search table.bounds n (table.bounds.size + 1) 0 table.bounds.size

end Ranges

end BundleHardening
