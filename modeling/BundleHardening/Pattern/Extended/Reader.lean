import BundleHardening.Pattern.Class.Reader
import BundleHardening.Pattern.Extended

/-!
# Reading an extended pattern

The written form of the backtracking dialect.  It differs from the linear one in more than the
constructs it adds: a brace that opens no count stands for itself, nothing that matches only the
empty text may be repeated, a mode switch outlasts the groups it stands in, and a comment may stand
wherever a blank may.
-/

set_option autoImplicit false

namespace BundleHardening.Extended

/-- What is left to read, the modes in force, the number of groups opened so far, their names, and
the groups referred back to.  `size` is the byte size of the whole pattern. -/
structure Reading where
  rest : Text
  size : Nat
  flags : Flags := {}
  groups : Nat := 0
  names : List (Text × Nat) := []
  refs : List Nat := []
  numbered : Bool := false

namespace Reading

/-- The reading with other text left. -/
def at_ (r : Reading) (rest : Text) : Reading :=
  { r with rest := rest }

/-- Drops blanks and comments; comments in parentheses are always dropped, the others and blanks only
in the verbose mode.  `none` when a comment is not closed. -/
def dropIgnored (verbose : Bool) : (fuel : Nat) → Text → Option Text
  | 0, t => some t
  | fuel + 1, t =>
    match t with
    | '(' :: '?' :: '#' :: t => comment fuel t
    | '#' :: t' =>
      if verbose then dropIgnored verbose fuel ((t'.dropWhile (· != '\n')).drop 1) else some t
    | c :: t' =>
      if verbose && (c == ' ' || c == '\r' || c == '\n' || c == '\t') then
        dropIgnored verbose fuel t'
      else some t
    | [] => some []
where
  /-- Drops the rest of a comment in parentheses. -/
  comment : (fuel : Nat) → Text → Option Text
    | 0, _ => none
    | _, [] => none
    | fuel + 1, ')' :: t => dropIgnored verbose fuel t
    | fuel + 1, '\\' :: _ :: t => comment fuel t
    | fuel + 1, _ :: t => comment fuel t

/-- The reading from the next significant character on. -/
def skip? (r : Reading) : Option Reading :=
  (dropIgnored r.flags.verbose (r.rest.length + 1) r.rest).map r.at_

/-- Refers back to a group. -/
def refer (r : Reading) (index : Nat) (rest : Text) : Extended × Reading :=
  (.backref index, { r with rest := rest, refs := index :: r.refs })

/-- Opens a group: its index, and the reading behind its opening. -/
def openGroup (r : Reading) (rest : Text) : Nat × Reading :=
  (r.groups + 1, { r with rest := rest, groups := r.groups + 1 })

end Reading

/-- Reads Text.decimal digits of at most 64 bits; `none` when there are none. -/
def readDecimal (t : Text) : Option (Nat × Text) :=
  let digits := t.takeWhile Char.isDigit
  if digits.isEmpty || Text.decimal digits ≥ Nat.pow 2 64 then none
  else some (Text.decimal digits, t.dropWhile Char.isDigit)

/-- Reads the bounds of a counted repetition behind its opening brace, the closing brace included.
A missing first bound is zero, a missing second one is none. -/
def readBounds (r : Reading) : Option ((Nat × Option Nat) × Text) := do
  let r ← r.skip?
  let (least, r) ← match r.rest with
    | ',' :: _ => some (0, r)
    | t => (readDecimal t).map fun (n, t) => (n, r.at_ t)
  let r ← r.skip?
  match r.rest with
  | '\x7d' :: t => pure ((least, some least), t)
  | ',' :: t =>
    let r ← (r.at_ t).skip?
    let (most, r) := match readDecimal r.rest with
      | some (n, t) => (some n, r.at_ t)
      | none => (none, r)
    let r ← r.skip?
    match r.rest with
    | '\x7d' :: t => pure ((least, most), t)
    | _ => none
  | _ => none

/-- Whether the character may stand in a group name. -/
def isNameChar (c : Char) : Bool :=
  c == '_' || isAlphanumeric c

/-- Reads a name and what must follow it. -/
def readName (close t : Text) : Option (Text × Text) :=
  let name := t.takeWhile isNameChar
  if name.isEmpty then none
  else (Text.after? close (t.dropWhile isNameChar)).map (name, ·)

/-- The group that a name refers to: a named one, one by its number, or one counted back from here. -/
def groupOf? (r : Reading) (name : Text) : Option Nat :=
  match r.names.lookup name with
  | some index => some index
  | none =>
    match name with
    | '-' :: back =>
      let n := Text.decimal back
      if !back.isEmpty && back.all Char.isDigit && n ≤ r.groups + 1 then some (r.groups + 1 - n) else none
    | _ => if name.all Char.isDigit && Text.decimal name < Nat.pow 2 64 then some (Text.decimal name) else none

/-- Reads a reference by name and what must follow it. -/
def readNamedRef (r : Reading) (relative : Bool) (close t : Text) : Option (Extended × Reading) :=
  let (sign, t) := match relative, t with
    | true, '-' :: t => (['-'], t)
    | _, t => ([], t)
  match readName close t with
  | none => none
  | some (name, t) => (groupOf? r (sign ++ name)).map fun index => r.refer index t

/-- Reads a reference by number; a number of half the pattern's size or more is refused. -/
def readNumberedRef (r : Reading) (t : Text) : Option (Extended × Reading) :=
  match readDecimal t with
  | some (index, t) =>
    if index < r.size / 2 then
      let (e, r) := r.refer index t
      some (e, { r with numbered := true })
    else none
  | none => none

/-- Reads a character code: so many digits, or one to eight digits in braces. -/
def readCode (digits : Nat) (t : Text) : Option (Char × Text) :=
  let fixed := t.take digits
  if fixed.length == digits && fixed.all Escape.isHexDigit then
    (Text.scalar? (Ranges.hexValue (String.ofList fixed))).map (·, t.drop digits)
  else
    match t with
    | '\x7b' :: t =>
      let code := t.takeWhile Escape.isHexDigit
      match t.dropWhile Escape.isHexDigit with
      | '\x7d' :: t =>
        if code.isEmpty || code.length > 8 then none
        else (Text.scalar? (Ranges.hexValue (String.ofList code))).map (·, t)
      | _ => none
    | _ => none

/-- What an escape stands for, inside a class or outside. -/
inductive Escaped where
  | literal (c : Char)
  /-- A set in the written form of a class member. -/
  | member (written : Text)
  | pattern (e : Extended)

/-- Reads the written form of a property behind its letter. -/
def readPropertyText (letter : Char) (t : Text) : Option (Text × Text) :=
  match t with
  | '\x7b' :: t =>
    match t.dropWhile (· != '\x7d') with
    | _ :: rest => some ('\\' :: letter :: '\x7b' :: (t.takeWhile (· != '\x7d') ++ ['\x7d']), rest)
    | [] => none
  | c :: t => some (['\\', letter, c], t)
  | [] => none

/-- Reads a word boundary; the kinds in braces are not part of this dialect. -/
def readBoundary (r : Reading) (kind : Boundary) (t : Text) : Option (Escaped × Reading) :=
  match t with
  | '\x7b' :: _ => none
  | t => some (.pattern (.look (.boundary kind)), r.at_ t)

/-- Reads what follows a backslash. -/
def readEscape (r : Reading) (inClass : Bool) : Text → Option (Escaped × Reading)
  | [] => none
  | c :: t =>
    let pattern (e : Extended) : Option (Escaped × Reading) := some (.pattern e, r.at_ t)
    let literal (c : Char) : Option (Escaped × Reading) := some (.literal c, r.at_ t)
    let member (written : String) : Option (Escaped × Reading) := some (.member written.toList, r.at_ t)
    let reference (ref : Option (Extended × Reading)) : Option (Escaped × Reading) :=
      ref.map fun (e, r) => (.pattern e, r)
    let code (read : Option (Char × Text)) : Option (Escaped × Reading) :=
      read.map fun (c, t) => (.literal c, r.at_ t)
    if c.isDigit then reference (readNumberedRef r (c :: t))
    else
      match c, inClass with
      | 'k', false =>
        match t with
        | '\'' :: t => reference (readNamedRef r true ['\''] t)
        | '<' :: t => reference (readNamedRef r true ['>'] t)
        | _ => none
      | 'A', false => pattern (.look .textStart)
      | 'z', false => pattern (.look .textEnd)
      | 'b', false => readBoundary r .any t
      | 'B', false => readBoundary r .none t
      | '<', false => pattern (.look (.boundary .start))
      | '>', false => pattern (.look (.boundary .stop))
      | 'K', false => pattern .keepOut
      | 'G', false => pattern .searchStart
      | 'd', _ => member "\\d"
      | 'D', _ => member "\\D"
      | 's', _ => member "\\s"
      | 'S', _ => member "\\S"
      | 'w', _ => member "\\w"
      | 'W', _ => member "\\W"
      | 'h', _ => member "[0-9A-Fa-f]"
      | 'H', _ => member "[^0-9A-Fa-f]"
      | 'x', _ => code (readCode 2 t)
      | 'u', _ => code (readCode 4 t)
      | 'U', _ => code (readCode 8 t)
      | 'p', _ => (readPropertyText 'p' t).map fun (w, t) => (.member w, r.at_ t)
      | 'P', _ => (readPropertyText 'P' t).map fun (w, t) => (.member w, r.at_ t)
      | 'a', _ => literal '\x07'
      | 'b', _ => literal '\x08'
      | 'f', _ => literal '\x0c'
      | 'n', _ => literal '\n'
      | 'r', _ => literal '\r'
      | 't', _ => literal '\t'
      | 'v', _ => literal '\x0b'
      | 'e', _ => literal '\x1b'
      | c, _ => if c.isAlpha then none else literal c

/-- The class of a written class member or class, which must be read to its end. -/
def classOf? (r : Reading) (written : Text) : Option Class :=
  let flags : Flags := { caseless := r.flags.caseless }
  let read := match written with
    | '[' :: t => Class.read flags t
    | '\\' :: t =>
      match Escape.read flags t with
      | some (.set c, t) => some (c, t)
      | _ => none
    | _ => none
  match read with
  | some (c, []) => some c
  | _ => none

/-- The pattern of an escape outside a class. -/
def ofEscaped? (r : Reading) : Escaped → Option Extended
  | .literal c => some (set ({ caseless := r.flags.caseless : Flags }.literal c))
  | .member written => (classOf? r written).map set
  | .pattern e => some e

/-- Collects the written form of a class up to the bracket that closes it, in reverse; escapes are
replaced by ones of the linear dialect. -/
def readClassText : (fuel : Nat) → (depth : Nat) → (written : Text) → Reading →
    Option (Text × Reading)
  | 0, _, _, _ => none
  | fuel + 1, depth, written, r => do
    let r ← r.skip?
    match r.rest with
    | [] => none
    | '\\' :: t =>
      let (e, r) ← readEscape r true t
      match e with
      | .literal c =>
        readClassText fuel depth ((if Escape.isMeta c then [c, '\\'] else [c]) ++ written) r
      | .member w => readClassText fuel depth (w.reverse ++ written) r
      | .pattern _ => none
    | '[' :: t => readClassText fuel (depth + 1) ('[' :: written) (r.at_ t)
    | ']' :: t =>
      match depth with
      | 0 => pure ((']' :: written).reverse, r.at_ t)
      | depth + 1 => readClassText fuel depth (']' :: written) (r.at_ t)
    | c :: t => readClassText fuel depth (c :: written) (r.at_ t)

/-- Reads a class behind its opening bracket; a closing bracket in first place stands for itself. -/
def readClass (r : Reading) (t : Text) : Option (Extended × Reading) := do
  let (written, t) := match t with
    | '^' :: t => (['^', '['], t)
    | t => (['['], t)
  let (written, t) := match t with
    | ']' :: t => (']' :: written, t)
    | t => (written, t)
  let (whole, after) ← readClassText (t.length + 1) 0 written (r.at_ t)
  let c ← classOf? after whole
  pure (set c, after)

/-- The sequence of parts given in reverse; empty parts are left out. -/
def ofParts : List Extended → Extended
  | [] => empty
  | [part] => part
  | parts => seq parts.reverse

/-- Whether nothing but the empty text is matched as written. -/
def isEmpty : Extended → Bool
  | empty => true
  | _ => false

/-- Whether a repetition sign may follow. -/
def isRepeatable : Extended → Bool
  | empty => false
  | look _ => false
  | around _ _ _ => false
  | _ => true

/-- Reads the repetition sign after a pattern, if there is one.  A question mark makes it lazy, and a
plus sign behind it atomic. -/
def readRepetition (r : Reading) (e : Extended) : Option (Extended × Reading) := do
  let bounds : Option ((Nat × Option Nat) × Text) := match r.rest with
    | '?' :: t => some ((0, some 1), t)
    | '*' :: t => some ((0, none), t)
    | '+' :: t => some ((1, none), t)
    | '\x7b' :: t => readBounds (r.at_ t)
    | _ => none
  match bounds with
  | none => pure (e, r)
  | some ((least, most), t) =>
    if !isRepeatable e then none
    let r ← (r.at_ t).skip?
    let (lazy, r) := match r.rest with
      | '?' :: t => (true, r.at_ t)
      | _ => (false, r)
    let repeated := times least most (lazy == r.flags.swapGreed) e
    match r.rest with
    | '+' :: t => pure (atomic repeated, r.at_ t)
    | _ => pure (repeated, r)

/-- What a mode switch leads to: the rest of the enclosing group, or a group of its own. -/
inductive Switch where
  | after (r : Reading)
  | inside (r : Reading)

/-- Reads the letters of a mode switch.  `letters` counts what has been read, and `negated` tells
whether a minus was among it. -/
def readSwitch : (fuel : Nat) → (letters : Nat) → (negated : Bool) → Reading → Option Switch
  | 0, _, _, _ => none
  | fuel + 1, letters, negated, r => do
    let r ← r.skip?
    match r.rest with
    | [] => none
    | ')' :: t => if letters == 0 || (negated && letters == 1) then none else pure (.after (r.at_ t))
    | ':' :: t => if negated && letters == 1 then none else pure (.inside (r.at_ t))
    | '-' :: t => if negated then none else readSwitch fuel (letters + 1) true (r.at_ t)
    | 'u' :: t => if negated then none else readSwitch fuel (letters + 1) negated (r.at_ t)
    | c :: t =>
      if c == 'R' then none
      else
        let flags ← r.flags.switch? c (!negated)
        readSwitch fuel (letters + 1) negated { r with flags := flags, rest := t }

/-- What an opening parenthesis begins. -/
inductive Opening where
  | around (ahead positive : Bool) (inside : Reading)
  | group (index : Nat) (inside : Reading)
  | atomic (inside : Reading)
  | reference (e : Extended) (after : Reading)
  | conditional (inside : Reading)
  | modes (switch : Switch)

/-- Opens a group under a name. -/
def openNamed (r : Reading) (t : Text) : Option Opening := do
  let (name, t) ← readName ['>'] t
  let (index, r) := r.openGroup t
  pure (.group index { r with names := (name, index) :: r.names })

/-- Reads what follows an opening parenthesis. -/
def readOpening (r : Reading) (t : Text) : Option Opening := do
  let r ← (r.at_ t).skip?
  match r.rest with
  | '?' :: '=' :: t => pure (.around true true (r.at_ t))
  | '?' :: '!' :: t => pure (.around true false (r.at_ t))
  | '?' :: '<' :: '=' :: t => pure (.around false true (r.at_ t))
  | '?' :: '<' :: '!' :: t => pure (.around false false (r.at_ t))
  | '?' :: '<' :: t => openNamed r t
  | '?' :: 'P' :: '<' :: t => openNamed r t
  | '?' :: 'P' :: '=' :: t => (readNamedRef r false [')'] t).map fun (e, r) => .reference e r
  | '?' :: '>' :: t => pure (.atomic (r.at_ t))
  | '?' :: '(' :: t => pure (.conditional (r.at_ t))
  | '?' :: t => (readSwitch (t.length + 1) 0 false (r.at_ t)).map .modes
  | t =>
    let (index, r) := r.openGroup t
    pure (.group index r)

/-- Reads a closing parenthesis. -/
def readClose (r : Reading) : Option Reading := do
  let r ← r.skip?
  match r.rest with
  | ')' :: t => pure (r.at_ t)
  | _ => none

/-- Reads a closing parenthesis with nothing before it. -/
def readBareClose (r : Reading) : Option Reading :=
  match r.rest with
  | ')' :: t => some (r.at_ t)
  | _ => none

/-- The condition of a conditional: a reference asks whether the group has matched. -/
def asCondition : Extended → Extended
  | backref index => ifGroup index
  | e => e

/-- The branches of a conditional: the first alternative and the others. -/
def branches : Extended → Extended × Extended
  | alt (yes :: [no]) => (yes, no)
  | alt (yes :: others) => (yes, alt others)
  | e => (e, empty)

/-- The deepest nesting of groups. -/
def maxDepth : Nat := 64

/-- What is to be read next. -/
inductive Goal where
  /-- Alternatives; those before are given in reverse. -/
  | alternatives (choices : List Extended)
  /-- One alternative; its parts so far are given in reverse. -/
  | sequence (parts : List Extended)
  /-- One part. -/
  | part
  /-- What follows an opening parenthesis. -/
  | parenthesis
  /-- The condition and the branches of a conditional. -/
  | conditional

/-- Reads what the goal asks for; `depth` counts the parentheses around it. -/
def readGoal : (fuel : Nat) → (depth : Nat) → Goal → Reading → Option (Extended × Reading)
  | 0, _, _, _ => none
  | fuel + 1, depth, .alternatives choices, r => do
    let (choice, r) ← readGoal fuel depth (.sequence []) r
    let r ← r.skip?
    match r.rest, choices with
    | '|' :: t, choices => readGoal fuel depth (.alternatives (choice :: choices)) (r.at_ t)
    | _, [] => if r.numbered && !r.names.isEmpty then none else pure (choice, r)
    | _, choices => pure (alt (choice :: choices).reverse, r)
  | fuel + 1, depth, .sequence parts, r =>
    if r.rest.isEmpty then some (ofParts parts, r)
    else do
      let (part, after) ← readGoal fuel depth .part r
      if after.rest.length == r.rest.length then pure (ofParts parts, r)
      else readGoal fuel depth (.sequence (if isEmpty part then parts else part :: parts)) after
  | fuel + 1, depth, .part, r => do
    let r ← r.skip?
    let plain (c : Class) (t : Text) : Option (Extended × Reading) := some (set c, r.at_ t)
    let (e, r) ← match r.rest with
      | [] => some (empty, r)
      | '(' :: t => readGoal fuel (depth + 1) .parenthesis (r.at_ t)
      | '\\' :: t => (readEscape r false t).bind fun (e, r) => (ofEscaped? r e).map (·, r)
      | '[' :: t => readClass r t
      | '.' :: t => plain (if r.flags.dotAll then .anything else .anyButNewline) t
      | '^' :: t => some (look r.flags.caret, r.at_ t)
      | '$' :: t => some (look r.flags.dollar, r.at_ t)
      | c :: t =>
        if c == '+' || c == '*' || c == '?' || c == '|' || c == ')' then some (empty, r)
        else plain ({ caseless := r.flags.caseless : Flags }.literal c) t
    let r ← r.skip?
    readRepetition r e
  | fuel + 1, depth, .parenthesis, r => do
    if maxDepth ≤ depth then none
    let body (wrap : Extended → Extended) (inside : Reading) : Option (Extended × Reading) := do
      let (e, r) ← readGoal fuel depth (.alternatives []) inside
      let r ← readClose r
      pure (wrap e, r)
    match ← readOpening r r.rest with
    | .around ahead positive inside => body (around ahead positive) inside
    | .group index inside => body (group index) inside
    | .atomic inside => body atomic inside
    | .reference e after => pure (e, after)
    | .conditional inside => readGoal fuel depth .conditional inside
    | .modes (.after after) => pure (empty, after)
    | .modes (.inside inside) =>
      let (e, after) ← readGoal fuel depth (.alternatives []) inside
      let after ← readBareClose after
      pure (e, { after with flags := r.flags })
  | fuel + 1, depth, .conditional, r => do
    let (condition, r) ← match r.rest with
      | [] => none
      | '\'' :: t => readNamedRef r true ['\'', ')'] t
      | '<' :: t => readNamedRef r true ['>', ')'] t
      | c :: _ =>
        if c == '+' || c == '-' || c.isDigit then readNamedRef r true [')'] r.rest
        else do
          let (e, r) ← readGoal fuel depth (.alternatives []) r
          let r ← readClose r
          pure (e, r)
    let (body, after) ← readGoal fuel depth (.alternatives []) r
    if after.rest.length == r.rest.length then
      match condition with
      | backref index =>
        let after ← readClose after
        pure (ifGroup index, after)
      | _ => none
    else
      let (yes, no) := branches body
      let after ← readClose after
      if isEmpty yes && isEmpty no then pure (asCondition condition, after)
      else pure (conditional (asCondition condition) yes no, after)

/-- The pattern of a written text with the number of its groups, the whole match included, and the
groups referred back to; `none` when the text is no pattern of the backtracking dialect. -/
def ofText? (t : Text) : Option (Extended × Nat × List Nat) := do
  let (e, r) ← readGoal (4 * t.length + 4) 0 (.alternatives [])
    { rest := t, size := Text.byteSize t }
  if !r.rest.isEmpty then none
  let groups ← countGroups? 1 e
  pure (e, groups, r.refs)

end BundleHardening.Extended
