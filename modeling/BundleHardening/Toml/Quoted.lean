import BundleHardening.Json.Quoted

/-!
# Writing TOML strings

A string is written in the plainest of the forms in which it needs no escapes: double quotes, single
quotes, and then both again with many lines.  Where no form will do, characters are written behind a
backslash.
-/

set_option autoImplicit false

namespace BundleHardening.Toml

/-- The length of the longest run of a character. -/
def longestRun (c : Char) (t : Text) : Nat :=
  (t.foldl (fun (run : Nat × Nat) d =>
    if d = c then (run.1 + 1, max run.2 (run.1 + 1)) else (0, run.2)) (0, 0)).2

/-- Whether a character must be written by its number or its letter: a control character other than
a tab or an end of line. -/
def needsCode (c : Char) : Bool :=
  (c.toNat < 0x20 && c != '\t' && c != '\n') || c.toNat == 0x7F

/-- The written form of a character by its number. -/
def coded (c : Char) : Text :=
  ['\\', 'u', '0', '0', (Json.hexDigit (c.toNat / 16)).toUpper, (Json.hexDigit (c.toNat % 16)).toUpper]

/-- The written form of the characters between double quotes.  In a text of many lines, ends of lines
and up to two quotes in a row stand for themselves; `run` counts the quotes before. -/
def escaped (manyLines : Bool) : (run : Nat) → Text → Text
  | _, [] => []
  | run, '"' :: t =>
    if manyLines && run < 2 then '"' :: escaped manyLines (run + 1) t
    else '\\' :: '"' :: escaped manyLines 0 t
  | _, '\x08' :: t => '\\' :: 'b' :: escaped manyLines 0 t
  | _, '\t' :: t => '\\' :: 't' :: escaped manyLines 0 t
  | _, '\n' :: t => (if manyLines then ['\n'] else ['\\', 'n']) ++ escaped manyLines 0 t
  | _, '\x0c' :: t => '\\' :: 'f' :: escaped manyLines 0 t
  | _, '\r' :: t => '\\' :: 'r' :: escaped manyLines 0 t
  | _, '\\' :: t => '\\' :: '\\' :: escaped manyLines 0 t
  | _, c :: t => (if needsCode c then coded c else [c]) ++ escaped manyLines 0 t

/-- A text between quotes.  One of many lines begins on a line of its own. -/
def between (quote : Text) (t body : Text) : Text :=
  quote ++ (if quote.length = 3 && t.contains '\n' then ['\n'] else []) ++ body ++ quote

/-- The written form of a string. -/
def quote (t : Text) : Text :=
  let codes := t.any needsCode
  let backslash := t.contains '\\'
  let breaks := t.contains '\n'
  let doubles := longestRun '"' t
  let singles := longestRun '\'' t
  let three (c : Char) : Text := [c, c, c]
  if !codes && !backslash && doubles = 0 && !breaks then between ['"'] t (escaped false 0 t)
  else if !codes && singles = 0 && !breaks then between ['\''] t t
  else if !codes && !backslash && doubles ≤ 2 then between (three '"') t (escaped true 0 t)
  else if !codes && singles ≤ 2 then between (three '\'') t t
  else if breaks then between (three '"') t (escaped true 0 t)
  else between ['"'] t (escaped false 0 t)

end BundleHardening.Toml
