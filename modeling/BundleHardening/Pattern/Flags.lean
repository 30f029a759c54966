import BundleHardening.Pattern.Class
import BundleHardening.Pattern.Look

/-!
# Reading modes

A pattern may switch modes on and off for the rest of the enclosing group: letter case, what the dot
and the line anchors mean, greediness, the character set of named classes, and whether blanks and
comments are left out.
-/

set_option autoImplicit false

namespace BundleHardening

/-- The modes in force at a place of a pattern. -/
structure Flags where
  caseless : Bool := false
  multiLine : Bool := false
  dotAll : Bool := false
  swapGreed : Bool := false
  unicode : Bool := true
  anyLineEnd : Bool := false
  verbose : Bool := false

namespace Flags

/-- Drops blanks and comments; a comment runs from `#` to the end of the line. -/
def dropIgnored : (inComment : Bool) → Text → Text
  | _, [] => []
  | true, c :: t => dropIgnored (c != '\n') t
  | false, c :: t =>
    if isBlank c then dropIgnored false t
    else if c == '#' then dropIgnored true t
    else c :: t

/-- The text from the next significant character on. -/
def skip (flags : Flags) (t : Text) : Text :=
  if flags.verbose then dropIgnored false t else t

/-- A class in the modes in force: letter case is disregarded before the complement is taken.  Without
the whole character set only ASCII members are allowed. -/
def close (flags : Flags) (negated : Bool) (c : Class) : Option Class :=
  let c := if flags.caseless then
      if flags.unicode then .folded c else .inter .ascii (.folded c)
    else c
  let c := if negated then .compl c else c
  if flags.unicode || c.isAscii then some c else none

/-- The class that a single character stands for. -/
def literal (flags : Flags) (c : Char) : Class :=
  if flags.caseless then
    if flags.unicode then .folded (.single c)
    else if c.toNat < 128 then .inter .ascii (.folded (.single c))
    else .single c
  else .single c

/-- What the dot stands for; it needs the whole character set. -/
def dot (flags : Flags) : Option Class :=
  if !flags.unicode then none
  else if flags.dotAll then some .anything
  else if flags.anyLineEnd then some .anyButLineEnd
  else some .anyButNewline

/-- What `^` stands for. -/
def caret (flags : Flags) : Look :=
  if !flags.multiLine then .textStart
  else if flags.anyLineEnd then .anyLineStart
  else .lineStart

/-- What `$` stands for. -/
def dollar (flags : Flags) : Look :=
  if !flags.multiLine then .textEnd
  else if flags.anyLineEnd then .anyLineEnd
  else .lineEnd

/-- A word boundary of the kind. -/
def boundary (flags : Flags) (kind : Boundary) : Look :=
  if flags.unicode then .boundary kind else .asciiBoundary kind

/-- Switches the mode of the given letter; `none` when there is no such mode. -/
def switch? (flags : Flags) (letter : Char) (on : Bool) : Option Flags :=
  match letter with
  | 'i' => some { flags with caseless := on }
  | 'm' => some { flags with multiLine := on }
  | 's' => some { flags with dotAll := on }
  | 'U' => some { flags with swapGreed := on }
  | 'u' => some { flags with unicode := on }
  | 'R' => some { flags with anyLineEnd := on }
  | 'x' => some { flags with verbose := on }
  | _ => none

/-- Reads the letters of a mode switch up to the closing `:` or `)`, which is given back with the
rest.  No letter may be repeated, and a minus must be followed by a letter.  `seen` holds what has
been read. -/
def readSwitch : (seen : List Char) → (flags : Flags) → Text → Option (Flags × List Char × Text)
  | _, _, [] => none
  | seen, flags, c :: t =>
    if c == ':' || c == ')' then
      if seen.head? == some '-' then none else some (flags, seen, c :: t)
    else if seen.contains c then none
    else if c == '-' then readSwitch (c :: seen) flags t
    else
      match flags.switch? c (!seen.contains '-') with
      | none => none
      | some flags => readSwitch (c :: seen) flags t

end Flags

end BundleHardening
