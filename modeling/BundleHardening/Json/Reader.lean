import BundleHardening.Json.Fault
import BundleHardening.Text.Digit

/-!
# Reading JSON

The scanners of this module take a text apart from the left: each answers what it read and the text
that is left.  `string` undoes what `quote` writes; `numeral` reads a number; `skipValue` passes over
a value of any shape; `wrongShape` says what is wrong with a value that is not of the kind asked for.
-/

set_option autoImplicit false

namespace BundleHardening.Json

/-- A reader answers what it read and the text that is left. -/
abbrev Reader (α : Type) := Text → Except Fault (α × Text)

/-- The characters that may stand between the parts of a JSON text. -/
def isSpace (c : Char) : Bool :=
  c == ' ' || c == '\n' || c == '\t' || c == '\r'

/-- The text without its leading space. -/
def skipSpace (t : Text) : Text :=
  t.dropWhile isSpace

/-- Reads one fixed word. -/
def word : (w : Text) → Reader Unit
  | [], t => .ok ((), t)
  | _ :: _, [] => .error .cutShort
  | a :: w, b :: t => if a = b then word w t else .error .malformed

/-! ## Strings -/

/-- The number that four hexadecimal digits write. -/
def unit? (a b c d : Char) : Option Nat :=
  Text.hexNumber? [a, b, c, d]

/-- The fault of a text in which four hexadecimal digits are missing: it ends early if it has not
even four bytes. -/
def unitFault (t : Text) : Fault :=
  if Text.byteSize t < 4 then .cutShort else .malformed

/-- The character that stands behind a backslash for itself or for a control character. -/
def shortEscape? : Char → Option Char
  | '"' => some '"'
  | '\\' => some '\\'
  | '/' => some '/'
  | 'b' => some '\x08'
  | 'f' => some '\x0c'
  | 'n' => some '\n'
  | 'r' => some '\r'
  | 't' => some '\t'
  | _ => none

/-- Whether a unit is the first half of a pair. -/
def isLeading (n : Nat) : Bool :=
  0xD800 ≤ n && n ≤ 0xDBFF

/-- Whether a unit is the second half of a pair. -/
def isTrailing (n : Nat) : Bool :=
  0xDC00 ≤ n && n ≤ 0xDFFF

/-- The character that a pair of units stands for. -/
def paired (leading trailing : Nat) : Char :=
  Char.ofNat ((leading - 0xD800) * 0x400 + (trailing - 0xDC00) + 0x10000)

/-- Reads a string behind its opening quote.  `before` is what was read already, last first. -/
def stringFrom (before : Text) : Reader Text
  | [] => .error .cutShort
  | '"' :: rest => .ok (before.reverse, rest)
  | '\\' :: 'u' :: a :: b :: c :: d :: rest =>
    match unit? a b c d with
    | none => .error .malformed
    | some n =>
      if isTrailing n then .error .malformed
      else if isLeading n then
        match rest with
        | '\\' :: 'u' :: e :: f :: g :: h :: rest =>
          match unit? e f g h with
          | none => .error .malformed
          | some m =>
            if isTrailing m then stringFrom (paired n m :: before) rest else .error .malformed
        | '\\' :: 'u' :: rest => .error (unitFault rest)
        | [] | ['\\'] => .error .cutShort
        | _ => .error .malformed
      else stringFrom (Char.ofNat n :: before) rest
  | '\\' :: 'u' :: rest => .error (unitFault rest)
  | ['\\'] => .error .cutShort
  | '\\' :: c :: rest =>
    match shortEscape? c with
    | some c => stringFrom (c :: before) rest
    | none => .error .malformed
  | c :: rest => if c.toNat < 0x20 then .error .malformed else stringFrom (c :: before) rest

/-- Reads a string behind its opening quote. -/
def string : Reader Text :=
  stringFrom []

/-- Passes over a string behind its opening quote.  The halves of pairs are not looked at. -/
def skipString : Text → Except Fault Text
  | [] => .error .cutShort
  | '"' :: rest => .ok rest
  | '\\' :: 'u' :: a :: b :: c :: d :: rest =>
    match unit? a b c d with
    | none => .error .malformed
    | some _ => skipString rest
  | '\\' :: 'u' :: rest => .error (unitFault rest)
  | ['\\'] => .error .cutShort
  | '\\' :: c :: rest =>
    match shortEscape? c with
    | some _ => skipString rest
    | none => .error .malformed
  | c :: rest => if c.toNat < 0x20 then .error .malformed else skipString rest

/-! ## Numbers -/

/-- A number as written: its digits without the point, and the power of ten they are taken to. -/
structure Numeral where
  digits : Nat
  exponent : Int

/-- The digits at the front of a text. -/
def digitsOf (t : Text) : Text :=
  t.takeWhile Char.isDigit

/-- Reads one digit or more; `short` is the fault of a text that ends where a digit should stand. -/
def digits (short : Fault) : Reader Text
  | [] => .error short
  | t =>
    match digitsOf t with
    | [] => .error .malformed
    | ds => .ok (ds, t.drop ds.length)

/-- Reads the digits before the point; a zero stands alone. -/
def whole (short : Fault) : Reader Text
  | '0' :: c :: rest => if c.isDigit then .error .malformed else .ok (['0'], c :: rest)
  | t => digits short t

/-- Reads the point and the digits after it, if a point follows. -/
def fraction (short : Fault) : Reader Text
  | '.' :: t => digits short t
  | t => .ok ([], t)

/-- Reads the exponent, if one follows. -/
def exponent (short : Fault) : Reader Int
  | c :: t =>
    if c == 'e' || c == 'E' then do
      let (negative, t) := match t with
        | '-' :: t => (true, t)
        | '+' :: t => (false, t)
        | t => (false, t)
      let (ds, t) ← digits short t
      .ok (if negative then -(Text.decimal ds : Int) else Text.decimal ds, t)
    else .ok (0, c :: t)
  | [] => .ok (0, [])

/-- Reads a number behind its sign. -/
def unsigned (short : Fault) : Reader Numeral := fun t => do
  let (before, t) ← whole short t
  let (after, t) ← fraction short t
  let (e, t) ← exponent short t
  .ok (⟨Text.decimal (before ++ after), e - after.length⟩, t)

/-- Reads a number. -/
def numeral (short : Fault) : Reader Numeral
  | '-' :: t => unsigned short t
  | t => unsigned short t

/-! ## Values of any shape -/

/-- What encloses a value. -/
inductive Container where
  | array
  | object
  deriving DecidableEq, Repr

/-- The character that closes a container. -/
def Container.closing : Container → Char
  | array => ']'
  | object => '}'

/-- Passes over a key and the colon after it. -/
def skipKey (t : Text) : Except Fault Text :=
  match skipSpace t with
  | [] => .error .cutShort
  | '"' :: t => do
    let t ← skipString t
    match skipSpace t with
    | [] => .error .cutShort
    | ':' :: t => .ok t
    | _ => .error .malformed
  | _ => .error .malformed

/-- Passes over a value that holds no other. -/
def skipScalar : Text → Except Fault Text
  | 'n' :: t => (word "ull".toList t).map Prod.snd
  | 't' :: t => (word "rue".toList t).map Prod.snd
  | 'f' :: t => (word "alse".toList t).map Prod.snd
  | '"' :: t => skipString t
  | [] => .error .cutShort
  | c :: t =>
    if c == '-' || c.isDigit then (numeral .malformed (c :: t)).map Prod.snd
    else .error .malformed

mutual

/-- Passes over a value and all that is open around it, innermost first. -/
def skipOpen : Nat → List Container → Text → Except Fault Text
  | 0, _, _ => .error .cutShort
  | fuel + 1, around, t =>
    match skipSpace t with
    | '[' :: t =>
      match skipSpace t with
      | ']' :: t => skipRest fuel around t
      | _ => skipOpen fuel (.array :: around) t
    | '{' :: t =>
      match skipSpace t with
      | '}' :: t => skipRest fuel around t
      | _ => do
        let t ← skipKey t
        skipOpen fuel (.object :: around) t
    | t => do
      let t ← skipScalar t
      skipRest fuel around t

/-- Passes over what follows a value in all that is open around it. -/
def skipRest : Nat → List Container → Text → Except Fault Text
  | 0, _, _ => .error .cutShort
  | _ + 1, [], t => .ok t
  | fuel + 1, container :: around, t =>
    match skipSpace t with
    | [] => .error .cutShort
    | ',' :: t => do
      let t ← match container with
        | .array => .ok t
        | .object => skipKey t
      skipOpen fuel (container :: around) t
    | c :: t => if c = container.closing then skipRest fuel around t else .error .malformed

end

/-- Passes over a value of any shape.  Each step uses up a character, so the length of the text is
enough of them. -/
def skipValue (t : Text) : Except Fault Text :=
  skipOpen (t.length + 2) [] t

/-! ## Values of a given kind -/

/-- The fault of a value that is not of the kind asked for. -/
def wrongShape (t : Text) : Fault :=
  let read : Except Fault Unit := match t with
    | [] => .error .cutShort
    | '[' :: _ | '{' :: _ => .ok ()
    | 'n' :: t => (word "ull".toList t).map Prod.fst
    | 't' :: t => (word "rue".toList t).map Prod.fst
    | 'f' :: t => (word "alse".toList t).map Prod.fst
    | '"' :: t => (string t).map fun _ => ()
    | c :: t =>
      if c == '-' || c.isDigit then do
        let (n, _) ← numeral .cutShort (c :: t)
        if Text.isBeyondDouble n.digits n.exponent then .error .malformed else .ok ()
      else .error .malformed
  match read with
  | .ok () => .wrongShape
  | .error fault => fault

/-- Reads a string. -/
def stringValue : Reader Text := fun t =>
  match skipSpace t with
  | '"' :: t => string t
  | t => .error (wrongShape t)

/-- Reads what `read` reads, or a null. -/
def nullable {α : Type} (read : Reader α) : Reader (Option α) := fun t =>
  match skipSpace t with
  | 'n' :: t => (word "ull".toList t).map fun (_, t) => (none, t)
  | t => (read t).map fun (a, t) => (some a, t)

/-- Reads the colon between a key and its value. -/
def colon : Reader Unit := fun t =>
  match skipSpace t with
  | ':' :: t => .ok ((), t)
  | [] => .error .cutShort
  | _ => .error .malformed

/-- Reads up to the next key of an object behind its opening brace, or to the end of the object, of
which `none` tells.  A comma stands before each key but the first. -/
def nextKey (first : Bool) : Reader (Option Text) := fun t =>
  let key : Reader (Option Text)
    | [] => .error .cutShort
    | '"' :: t => (string t).map fun (k, t) => (some k, t)
    | _ => .error .malformed
  match skipSpace t with
  | '}' :: t => .ok (none, t)
  | [] => .error .cutShort
  | c :: t =>
    if first then key (c :: t)
    else if c = ',' then key (skipSpace t)
    else .error .malformed

/-- Reads up to the next member of an array behind its opening bracket, or up to the end of the
array, of which `false` tells.  A comma stands before each member but the first. -/
def nextMember (first : Bool) : Reader Bool := fun t =>
  match skipSpace t with
  | [] => .error .cutShort
  | ']' :: t => .ok (false, ']' :: t)
  | c :: t =>
    if first then .ok (true, c :: t)
    else if c = ',' then
      match skipSpace t with
      | [] => .error .cutShort
      | ']' :: _ => .error .malformed
      | t => .ok (true, t)
    else .error .malformed

/-- Reads the members of an object behind its opening brace; `member` reads the colon and the value
behind a key.  Each step uses up a character. -/
def membersFrom {σ : Type} (member : σ → Text → Reader σ) : Nat → Bool → σ → Reader σ
  | 0, _, _, _ => .error .cutShort
  | fuel + 1, first, state, t => do
    let (key, t) ← nextKey first t
    match key with
    | none => .ok (state, t)
    | some key =>
      let (state, t) ← member state key t
      membersFrom member fuel false state t

/-- Reads the members of an object behind its opening brace. -/
def members {σ : Type} (member : σ → Text → Reader σ) (start : σ) : Reader σ := fun t =>
  membersFrom member (t.length + 1) true start t

/-- Reads the closing bracket of an array of which all members are read. -/
def endArray : Reader Unit := fun t =>
  match skipSpace t with
  | [] => .error .cutShort
  | ']' :: t => .ok ((), t)
  | _ => .error .malformed

/-- Reads a value that takes up the whole text. -/
def document {α : Type} (read : Reader α) (t : Text) : Except Fault α := do
  let (a, t) ← read t
  match skipSpace t with
  | [] => .ok a
  | _ => .error .malformed

end BundleHardening.Json
