import BundleHardening.Text.Basic

/-!
# Data

What a document holds once its notation is gone: values, lists of data, and records of named members.
The settings are taken from such data, whatever it was written in.
-/

set_option autoImplicit false

namespace BundleHardening

/-- The content of a document. -/
inductive Data where
  | null
  | flag (b : Bool)
  | integer (n : Int)
  /-- A number with a fraction or an exponent; nothing asks for its value. -/
  | fraction
  /-- A date, a time of day, or both; nothing asks for its value. -/
  | moment
  | text (t : Text)
  | list (items : List Data)
  | record (members : List (Text × Data))
  deriving Inhabited

namespace Data

/-- A truth value. -/
def flag? : Data → Option Bool
  | flag b => some b
  | _ => none

/-- A text. -/
def text? : Data → Option Text
  | text t => some t
  | _ => none

/-- A text, or none in place of a null. -/
def optionalText? : Data → Option (Option Text)
  | null => some none
  | text t => some (some t)
  | _ => none

/-- A size: a number that is not negative. -/
def size? : Data → Option UInt64
  | integer (.ofNat n) => some (.ofNat n)
  | _ => none

/-- Whether there is nothing in the data. -/
def isVoid : Data → Bool
  | null | list [] | record [] => true
  | _ => false

/-- A word: a text, or a record of one member with nothing in it, which is called like the word. -/
def word? : Data → Option Text
  | text t => some t
  | record [(name, d)] => if d.isVoid then some name else none
  | _ => none

/-- A part of composed data: the member of a name, or the item at the place that the member has in
the order of all members.  The outer option is empty when the data is not composed, the inner one
when the part is not there. -/
def part? (name : String) (place : Nat) : Data → Option (Option Data)
  | record members => some (members.lookup name.toList)
  | list items => some items[place]?
  | moment => some none
  | _ => none

/-- A part, or its default when it is not there.  There is none when the data is not composed or the
part is of another kind. -/
def partOr {α : Type} (d : Data) (name : String) (place : Nat) (kind : Data → Option α)
    (default : α) : Option α :=
  match d.part? name place with
  | none => none
  | some none => some default
  | some (some d) => kind d

end Data

end BundleHardening
