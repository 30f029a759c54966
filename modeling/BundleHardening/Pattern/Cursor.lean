import BundleHardening.Text.Basic

/-!
# Positions in a text

A cursor is a position in a text together with what lies on both sides of it, so that a part of the
text between two cursors can be taken without the text itself.
-/

set_option autoImplicit false

namespace BundleHardening

/-- A position: what comes before it, nearest character first, and what comes after. -/
structure Cursor where
  index : Nat
  before : List Char
  rest : Text

namespace Cursor

/-- The position before the first character of a text. -/
def start (t : Text) : Cursor where
  index := 0
  before := []
  rest := t

/-- The position one character on; the end of the text has none. -/
def next? (c : Cursor) : Option Cursor :=
  match c.rest with
  | [] => none
  | x :: rest => some { index := c.index + 1, before := x :: c.before, rest := rest }

/-- The position `n` characters back; `none` when the text has fewer before it. -/
def back? : (n : Nat) → Cursor → Option Cursor
  | 0, c => some c
  | n + 1, c =>
    match c.before with
    | [] => none
    | x :: before => back? n { index := c.index - 1, before := before, rest := x :: c.rest }

/-- The character before the position. -/
def previous (c : Cursor) : Option Char :=
  c.before.head?

/-- The character after the position. -/
def following (c : Cursor) : Option Char :=
  c.rest.head?

/-- The text from one position to a later one. -/
def upTo (c stop : Cursor) : Text :=
  c.rest.take (stop.index - c.index)

/-- The position behind the given text, when it stands here. -/
def along? : (t : Text) → Cursor → Option Cursor
  | [], c => some c
  | x :: t, c =>
    match c.rest with
    | [] => none
    | y :: rest =>
      if x = y then along? t { index := c.index + 1, before := y :: c.before, rest := rest } else none

/-- The number of UTF-8 bytes before the position. -/
def byteOffset (c : Cursor) : Nat :=
  Text.byteSize c.before

end Cursor

end BundleHardening
