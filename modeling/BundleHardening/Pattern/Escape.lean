import BundleHardening.Pattern.Flags
import BundleHardening.Text.Digit

/-!
# Escapes

What may follow a backslash in the linear dialect: a character that would otherwise have a meaning,
a control character by letter or by code, a named class, or a condition on the position.
-/

set_option autoImplicit false

namespace BundleHardening

/-- What an escape stands for. -/
inductive Escape where
  | literal (c : Char)
  | set (c : Class)
  | look (condition : Look)

namespace Escape

/-- Whether the character is a hexadecimal digit. -/
def isHexDigit (c : Char) : Bool :=
  c.isDigit || ('a' ≤ c && c ≤ 'f') || ('A' ≤ c && c ≤ 'F')

/-- Whether the character has a meaning of its own in a pattern. -/
def isMeta (c : Char) : Bool :=
  ['\\', '.', '+', '*', '?', '(', ')', '|', '[', ']', '\x7b', '\x7d', '^', '$', '#', '&', '-',
    '~'].contains c

/-- Whether a backslash before the character makes it stand for itself: any ASCII character but
letters, digits and the angle brackets. -/
def isEscapable (c : Char) : Bool :=
  isMeta c || (c.toNat < 128 && !c.isAlphanum && c != '<' && c != '>')

/-- Reads exactly `count` hexadecimal digits. -/
def readDigits (flags : Flags) : (count value : Nat) → Text → Option (Nat × Text)
  | 0, value, t => some (value, t)
  | _ + 1, _, [] => none
  | count + 1, value, c :: t =>
    if isHexDigit c then readDigits flags count (value * 16 + Ranges.hexDigit c) (flags.skip t)
    else none

/-- Reads up to the closing brace, which is dropped; `read` is collected in reverse. -/
def readBraced (flags : Flags) : (fuel : Nat) → (read : List Char) → Text →
    Option (List Char × Text)
  | 0, _, _ => none
  | _, _, [] => none
  | fuel + 1, read, c :: t =>
    if c == '\x7d' then some (read.reverse, t)
    else readBraced flags fuel (c :: read) (flags.skip t)

/-- Reads a character code of so many digits, or of any number of digits in braces.  Without the
whole character set a code of two digits means a byte, which must be ASCII. -/
def readCode (flags : Flags) (digits : Nat) (t : Text) : Option (Escape × Text) :=
  match flags.skip t with
  | '\x7b' :: t => do
    let (code, t) ← readBraced flags (t.length + 1) [] (flags.skip t)
    if code.isEmpty || !code.all isHexDigit then none
    let c ← Text.scalar? (Ranges.hexValue (String.ofList code))
    pure (.literal c, flags.skip t)
  | t => do
    let (code, t) ← readDigits flags digits 0 t
    if digits == 2 && !flags.unicode && 128 ≤ code then none
    let c ← Text.scalar? code
    pure (.literal c, t)

/-- The text before and after the first occurrence of a separator. -/
def cut? (separator : Text) : Text → Option (Text × Text)
  | [] => none
  | c :: t =>
    match Text.after? separator (c :: t) with
    | some rest => some ([], rest)
    | none => (cut? separator t).map fun (left, right) => (c :: left, right)

/-- The class of a property written in braces, and whether it is negated by its operator. -/
def property? (written : Text) : Option (Class × Bool) :=
  match cut? ['!', '='] written with
  | some (name, value) => (Class.ofPropertyValue? name value).map (·, true)
  | none =>
    match cut? [':'] written <|> cut? ['='] written with
    | some (name, value) => (Class.ofPropertyValue? name value).map (·, false)
    | none => (Class.ofProperty? written).map (·, false)

/-- Reads a property, a single letter or a text in braces. -/
def readProperty (flags : Flags) (negated : Bool) (t : Text) : Option (Escape × Text) :=
  if !flags.unicode then none
  else
    match flags.skip t with
    | [] => none
    | '\x7b' :: t => do
      let (written, t) ← readBraced flags (t.length + 1) [] (flags.skip t)
      let (c, other) ← property? written
      let c ← flags.close (negated != other) c
      pure (.set c, t)
    | c :: t =>
      if c == '\\' then none
      else do
        let c ← (Class.ofProperty? [c]) >>= flags.close negated
        pure (.set c, flags.skip t)

/-- A named class.  Without the whole character set its ASCII part is meant, which has no complement
there. -/
def named (flags : Flags) (whole ascii : Class) (negated : Bool) : Option Escape :=
  if flags.unicode then some (.set (if negated then .compl whole else whole))
  else if negated then none
  else some (.set ascii)

/-- Reads the letters, hyphens included, of a word boundary in braces. -/
def readBoundaryName (flags : Flags) : (fuel : Nat) → (read : List Char) → Text →
    Option (String × Text)
  | 0, _, _ => none
  | _, _, [] => none
  | fuel + 1, read, c :: t =>
    if c.isAlpha || c == '-' then readBoundaryName flags fuel (c :: read) (flags.skip t)
    else if c == '\x7d' then some (String.ofList read.reverse, t)
    else none

/-- The word boundary of the given name. -/
def boundary? : String → Option Boundary
  | "start" => some .start
  | "end" => some .stop
  | "start-half" => some .startHalf
  | "end-half" => some .stopHalf
  | _ => none

/-- Reads what follows the letter of a word boundary: its kind in braces, unless the braces hold a
count. -/
def readBoundary (flags : Flags) (t : Text) : Option (Escape × Text) :=
  match t with
  | '\x7b' :: braced =>
    match flags.skip braced with
    | [] => none
    | c :: t' =>
      if c.isAlpha || c == '-' then do
        let (name, t) ← readBoundaryName flags (t'.length + 2) [] (c :: t')
        let kind ← boundary? name
        pure (.look (flags.boundary kind), t)
      else pure (.look (flags.boundary .any), t)
  | _ => pure (.look (flags.boundary .any), t)

/-- Reads what follows a backslash. -/
def read (flags : Flags) : Text → Option (Escape × Text)
  | [] => none
  | c :: t =>
    match c with
    | 'x' => readCode flags 2 t
    | 'u' => readCode flags 4 t
    | 'U' => readCode flags 8 t
    | 'p' => readProperty flags false t
    | 'P' => readProperty flags true t
    | 'd' => (named flags .digit .asciiDigit false).map (·, t)
    | 'D' => (named flags .digit .asciiDigit true).map (·, t)
    | 's' => (named flags .blank .asciiBlank false).map (·, t)
    | 'S' => (named flags .blank .asciiBlank true).map (·, t)
    | 'w' => (named flags .word .asciiWord false).map (·, t)
    | 'W' => (named flags .word .asciiWord true).map (·, t)
    | 'a' => some (.literal '\x07', t)
    | 'f' => some (.literal '\x0c', t)
    | 't' => some (.literal '\t', t)
    | 'n' => some (.literal '\n', t)
    | 'r' => some (.literal '\r', t)
    | 'v' => some (.literal '\x0b', t)
    | 'A' => some (.look .textStart, t)
    | 'z' => some (.look .textEnd, t)
    | 'b' => readBoundary flags t
    | 'B' => some (.look (flags.boundary .none), t)
    | '<' => some (.look (flags.boundary .start), t)
    | '>' => some (.look (flags.boundary .stop), t)
    | c => if isEscapable c then some (.literal c, t) else none

end Escape

end BundleHardening
