import BundleHardening.Pattern.Class.Reader
import BundleHardening.Pattern.Room

/-!
# Reading a regular pattern

The written form of the linear dialect.  A mode switch inside a group lasts to the end of the group;
every repetition needs something before it to repeat; group names are unique.  A pattern may be
nested only so deep, and take only so much room.
-/

set_option autoImplicit false

namespace BundleHardening.Regular

/-- What is left to read, the modes in force, the number of groups opened so far and their names. -/
structure Reading where
  rest : Text
  flags : Flags := {}
  groups : Nat := 0
  names : List Text := []

namespace Reading

/-- The reading with other text left. -/
def at_ (r : Reading) (rest : Text) : Reading :=
  { r with rest := rest }

/-- The reading from the next significant character on. -/
def skip (r : Reading) : Reading :=
  r.at_ (r.flags.skip r.rest)

/-- Opens a group: its index, and the reading behind its opening. -/
def openGroup (r : Reading) (rest : Text) : Nat × Reading :=
  (r.groups + 1, { r with rest := rest, groups := r.groups + 1 })

/-- Opens a group of the given name, which must be new. -/
def openNamed? (r : Reading) (name rest : Text) : Option (Nat × Reading) :=
  if r.names.contains name then none
  else
    let (index, r) := r.openGroup rest
    some (index, { r with names := name :: r.names })

end Reading

/-- A pattern with the depth to which its written form is nested: sequences, alternatives, groups,
repetitions and classes each add one. -/
structure Nested where
  pattern : Regular
  depth : Nat

/-- A pattern that stands around what is nested so deep. -/
def Nested.around (inner : Nested) (pattern : Regular) : Nested where
  pattern := pattern
  depth := inner.depth + 1

/-- The depth of a construct of parts of the given depths; a single part is no construct. -/
def depthOf (depths : List Nat) : Nat :=
  let deepest := depths.foldl max 0
  if depths.length ≤ 1 then deepest else deepest + 1

/-- The alternatives given in reverse. -/
def ofChoices (choices : List Nested) : Nested where
  pattern := alternation (choices.reverse.map (·.pattern))
  depth := depthOf (choices.map (·.depth))

/-- One factor of a sequence; a mode switch is a factor that cannot be repeated. -/
inductive Factor where
  | part (part : Nested)
  | modes

/-- The pattern of a factor, unless it is a mode switch. -/
def Factor.pattern? : Factor → Option Regular
  | part p => some p.pattern
  | modes => none

/-- The depth of a factor. -/
def Factor.depth : Factor → Nat
  | part p => p.depth
  | modes => 0

/-- The sequence of factors given in reverse. -/
def ofFactors (factors : List Factor) : Nested where
  pattern := sequence (factors.reverse.filterMap Factor.pattern?)
  depth := depthOf (factors.map Factor.depth)

/-- Reads a count: decimal digits with blanks around them, of at most 32 bits. -/
def readCount (t : Text) : Option (Nat × Text) :=
  let t := t.dropWhile isBlank
  let digits := t.takeWhile Char.isDigit
  let value := digits.foldl (fun n c => n * 10 + (c.toNat - '0'.toNat)) 0
  if digits.isEmpty || value ≥ Nat.pow 2 32 then none
  else some (value, (t.dropWhile Char.isDigit).dropWhile isBlank)

/-- Reads the bounds of a counted repetition behind its opening brace, the closing brace included. -/
def readBounds (flags : Flags) (t : Text) : Option ((Nat × Option Nat) × Text) := do
  let (least, t) ← readCount (flags.skip t)
  match t with
  | '\x7d' :: t => pure ((least, some least), t)
  | ',' :: t =>
    match flags.skip t with
    | '\x7d' :: t => pure ((least, none), t)
    | t =>
      let (most, t) ← readCount t
      match t with
      | '\x7d' :: t => if least ≤ most then pure ((least, some most), t) else none
      | _ => none
  | _ => none

/-- Repeats the factor read last. -/
def repeatLast (flags : Flags) (least : Nat) (most : Option Nat) (lazy : Bool) :
    List Factor → Option (List Factor)
  | .part p :: before =>
    some (.part (p.around (repeated least most (lazy == flags.swapGreed) p.pattern)) :: before)
  | _ => none

/-- Reads a repetition sign; the text left begins with it. -/
def readRepetition (r : Reading) (factors : List Factor) : Option (List Factor × Reading) :=
  let finish (least : Nat) (most : Option Nat) (t : Text) : Option (List Factor × Reading) :=
    match t with
    | '?' :: t => (repeatLast r.flags least most true factors).map (·, r.at_ t)
    | t => (repeatLast r.flags least most false factors).map (·, r.at_ t)
  match r.rest with
  | '?' :: t => finish 0 (some 1) t
  | '*' :: t => finish 0 none t
  | '+' :: t => finish 1 none t
  | '\x7b' :: t =>
    match readBounds r.flags t with
    | some ((least, most), t) => finish least most (r.flags.skip t)
    | none => none
  | _ => none

/-- The pattern of an escape. -/
def ofEscape (flags : Flags) : Escape → Regular
  | .literal c => set (flags.literal c)
  | .set c => set c
  | .look condition => look condition

/-- Reads a pattern of one character, escape or class. -/
def readAtom (r : Reading) : Option (Nested × Reading) :=
  match r.rest with
  | [] => none
  | '\\' :: t => (Escape.read r.flags t).map fun (e, t) => (⟨ofEscape r.flags e, 0⟩, r.at_ t)
  | '[' :: t => (Class.read r.flags t).map fun (c, t) => (⟨set c, 1⟩, r.at_ t)
  | '.' :: t => r.flags.dot.map fun c => (⟨set c, 0⟩, r.at_ t)
  | '^' :: t => some (⟨look r.flags.caret, 0⟩, r.at_ t)
  | '$' :: t => some (⟨look r.flags.dollar, 0⟩, r.at_ t)
  | c :: t => some (⟨set (r.flags.literal c), 0⟩, r.at_ t)

/-- Whether the character may stand in a group name, first or later. -/
def isNameChar (first : Bool) (c : Char) : Bool :=
  if first then c == '_' || isAlphabetic c
  else c == '_' || c == '.' || c == '[' || c == ']' || isAlphanumeric c

/-- Reads a group name up to its closing angle bracket. -/
def readName (t : Text) : Option (Text × Text) :=
  let name := t.takeWhile (· != '>')
  match t.dropWhile (· != '>'), name with
  | _ :: rest, c :: more =>
    if isNameChar true c && more.all (isNameChar false) then some (name, rest) else none
  | _, _ => none

/-- What an opening parenthesis begins. -/
inductive Opening where
  | group (index : Nat) (inside : Reading)
  | plain (inside : Reading)
  | modes (after : Reading)

/-- Reads what follows an opening parenthesis.  Look-around has no place in this dialect. -/
def readOpening (r : Reading) (t : Text) : Option Opening :=
  match r.flags.skip t with
  | '?' :: '=' :: _ => none
  | '?' :: '!' :: _ => none
  | '?' :: '<' :: '=' :: _ => none
  | '?' :: '<' :: '!' :: _ => none
  | '?' :: 'P' :: '<' :: t => do
    let (name, t) ← readName t
    let (index, r) ← r.openNamed? name t
    pure (.group index r)
  | '?' :: '<' :: t => do
    let (name, t) ← readName t
    let (index, r) ← r.openNamed? name t
    pure (.group index r)
  | '?' :: t => do
    let (flags, letters, t) ← Flags.readSwitch [] r.flags t
    match t with
    | ':' :: t => pure (.plain { r with flags := flags, rest := t })
    | _ :: t => if letters.isEmpty then none else pure (.modes { r with flags := flags, rest := t })
    | [] => none
  | t =>
    let (index, r) := r.openGroup t
    some (.group index r)

/-- Reads alternatives up to a closing parenthesis or the end of the text.  `choices` holds the
alternatives read, `factors` what has been read of the next, both in reverse. -/
def readAlternatives : (fuel : Nat) → (choices : List Nested) → (factors : List Factor) →
    Reading → Option (Nested × Reading)
  | 0, _, _, _ => none
  | fuel + 1, choices, factors, r =>
    let r := r.skip
    let finished := ofChoices (ofFactors factors :: choices)
    match r.rest with
    | [] => some (finished, r)
    | ')' :: _ => some (finished, r)
    | '|' :: t => readAlternatives fuel (ofFactors factors :: choices) [] (r.at_ t)
    | '(' :: t => do
      let opening ← readOpening r t
      let (factor, after) ← match opening with
        | .modes after => some (Factor.modes, after)
        | .plain inside => do
          let (body, after) ← readAlternatives fuel [] [] inside
          some (Factor.part (body.around body.pattern), after)
        | .group index inside => do
          let (body, after) ← readAlternatives fuel [] [] inside
          some (Factor.part (body.around (group index body.pattern)), after)
      match opening, after.rest with
      | .modes _, _ => readAlternatives fuel choices (factor :: factors) after
      | _, ')' :: t =>
        readAlternatives fuel choices (factor :: factors) { after with rest := t, flags := r.flags }
      | _, _ => none
    | c :: _ =>
      if c == '?' || c == '*' || c == '+' || c == '\x7b' then do
        let (factors, r) ← readRepetition r factors
        readAlternatives fuel choices factors r
      else do
        let (part, r) ← readAtom r
        readAlternatives fuel choices (.part part :: factors) r

/-- The deepest nesting of a pattern. -/
def maxDepth : Nat := 250

/-- The pattern of a written text; `none` when the text is no pattern of the linear dialect. -/
def ofText? (t : Text) : Option Regular := do
  let (whole, r) ← readAlternatives (2 * t.length + 2) [] [] { rest := t }
  if r.rest.isEmpty && whole.depth ≤ maxDepth && whole.pattern.fits then
    some whole.pattern
  else none

end BundleHardening.Regular
