import BundleHardening.Text.Digit

/-!
# Words of a TOML document

Space, comments, ends of lines, keys and strings.  Each reader takes its word from the front of a text
and answers it with the text that is left, or nothing if no such word stands there.
-/

set_option autoImplicit false

namespace BundleHardening.Toml

/-- A reader answers what it read and the text that is left. -/
abbrev Reader (α : Type) := Text → Option (α × Text)

/-! ## Space -/

/-- Whether a character may stand between the words of a line. -/
def isSpace (c : Char) : Bool :=
  c == ' ' || c == '\t'

/-- The text without its leading space. -/
def skipSpace (t : Text) : Text :=
  t.dropWhile isSpace

/-- Whether a character is neither a control character nor one that needs a closer look: a tab, or
any character from the blank on but the last control character of the first 128. -/
def isPlain (c : Char) : Bool :=
  c == '\t' || (0x20 ≤ c.toNat && c.toNat != 0x7F)

/-- What is left behind the end of a line. -/
def newline? : Text → Option Text
  | '\n' :: t => some t
  | '\r' :: '\n' :: t => some t
  | _ => none

/-- The text without a leading comment. -/
def skipComment : Text → Text
  | '#' :: t => t.dropWhile isPlain
  | t => t

/-- What is left behind the rest of a line that holds nothing but space and a comment. -/
def lineEnd? (t : Text) : Option Text :=
  match skipComment (skipSpace t) with
  | [] => some []
  | t => newline? t

/-- Passes over space, comments and ends of lines; a comment ends with its line. -/
def skipLines : Nat → Text → Text
  | 0, t => t
  | fuel + 1, t =>
    let t := skipSpace t
    match newline? (skipComment t) with
    | some rest => skipLines fuel rest
    | none => t

/-! ## Strings -/

/-- The character that stands for itself or for a control character behind a backslash. -/
def shortEscape? : Char → Option Char
  | 'b' => some '\x08'
  | 't' => some '\t'
  | 'n' => some '\n'
  | 'f' => some '\x0c'
  | 'r' => some '\r'
  | '"' => some '"'
  | '\\' => some '\\'
  | _ => none

/-- Reads what follows a backslash. -/
def escape : Reader Char
  | 'u' :: a :: b :: c :: d :: t => do
    let n ← Text.hexNumber? [a, b, c, d]
    let ch ← Text.scalar? n
    some (ch, t)
  | 'U' :: a :: b :: c :: d :: e :: f :: g :: h :: t => do
    let n ← Text.hexNumber? [a, b, c, d, e, f, g, h]
    let ch ← Text.scalar? n
    some (ch, t)
  | c :: t => (shortEscape? c).map fun ch => (ch, t)
  | [] => none

/-- Reads a string in double quotes behind its opening quote.  `before` is what was read already, last
first. -/
def basicFrom : Nat → Text → Reader Text
  | 0, _, _ => none
  | _ + 1, before, '"' :: t => some (before.reverse, t)
  | fuel + 1, before, '\\' :: t => do
    let (c, t) ← escape t
    basicFrom fuel (c :: before) t
  | fuel + 1, before, c :: t => if isPlain c then basicFrom fuel (c :: before) t else none
  | _ + 1, _, [] => none

/-- Reads a string in single quotes behind its opening quote. -/
def literal (t : Text) : Option (Text × Text) :=
  match t.dropWhile fun c => c != '\'' && isPlain c with
  | '\'' :: rest => some (t.takeWhile fun c => c != '\'' && isPlain c, rest)
  | _ => none

/-- Passes over space and ends of lines. -/
def skipBreaks : Nat → Text → Text
  | 0, t => t
  | fuel + 1, t =>
    let t := skipSpace t
    match newline? t with
    | some rest => skipBreaks fuel rest
    | none => t

/-- What is left when a line is broken behind a backslash: the break and all space and breaks after
it are passed over. -/
def lineBreak? (t : Text) : Option Text :=
  (newline? (skipSpace t)).map fun rest => skipBreaks (rest.length + 1) rest

/-- Reads quotes in a string of many lines.  Three quotes close it, and up to two before them still
belong to it; answers the quotes that do, and whether the string is closed. -/
def quotes (quote : Char) (t : Text) : Nat × Bool × Text :=
  let n := (t.takeWhile (· == quote)).length
  if n < 3 then (n, false, t.drop n)
  else
    let kept := min (n - 3) 2
    (kept, true, t.drop (kept + 3))

/-- Reads a string of many lines behind its opening quotes; `escapes` says whether a backslash has a
meaning in it. -/
def manyLines (quote : Char) (escapes : Bool) : Nat → Text → Reader Text
  | 0, _, _ => none
  | _ + 1, _, [] => none
  | fuel + 1, before, c :: t =>
    if c = quote then
      let (kept, closed, rest) := quotes quote (c :: t)
      let before := List.replicate kept quote ++ before
      if closed then some (before.reverse, rest) else manyLines quote escapes fuel before rest
    else if c = '\\' && escapes then
      match lineBreak? t with
      | some rest => manyLines quote escapes fuel before rest
      | none => do
        let (ch, t) ← escape t
        manyLines quote escapes fuel (ch :: before) t
    else
      match newline? (c :: t) with
      | some rest => manyLines quote escapes fuel ('\n' :: before) rest
      | none => if isPlain c then manyLines quote escapes fuel (c :: before) t else none

/-- What is left when an end of line directly behind the opening quotes is passed over. -/
def skipFirstBreak (t : Text) : Text :=
  (newline? t).getD t

/-- Reads a string of one line. -/
def shortString : Reader Text
  | '"' :: t => basicFrom (t.length + 1) [] t
  | '\'' :: t => literal t
  | _ => none

/-- Reads a string. -/
def string : Reader Text
  | '"' :: '"' :: '"' :: t => manyLines '"' true (t.length + 1) [] (skipFirstBreak t)
  | '\'' :: '\'' :: '\'' :: t => manyLines '\'' false (t.length + 1) [] (skipFirstBreak t)
  | t => shortString t

/-! ## Keys -/

/-- Whether a character may stand in a key without quotes. -/
def isBare (c : Char) : Bool :=
  c.isAlphanum || c == '_' || c == '-'

/-- Reads one name of a key. -/
def simpleKey (t : Text) : Option (Text × Text) :=
  match shortString t with
  | some r => some r
  | none =>
    match t.takeWhile isBare with
    | [] => none
    | name => some (name, t.drop name.length)

/-- The number of names that a key must not reach, and the depth that values must not be nested to. -/
def nestLimit : Nat := 80

/-- Reads the names of a key, between which points stand. -/
def names : Nat → Reader (List Text)
  | 0, _ => none
  | fuel + 1, t => do
    let (name, t) ← simpleKey (skipSpace t)
    match skipSpace t with
    | '.' :: t => do
      let (rest, t) ← names fuel t
      some (name :: rest, t)
    | t => some ([name], t)

/-- Reads a key with the space around it. -/
def key (t : Text) : Option (List Text × Text) :=
  match names (t.length + 1) t with
  | some (ns, t) => if ns.length < nestLimit then some (ns, t) else none
  | none => none

end BundleHardening.Toml
