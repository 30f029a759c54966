import BundleHardening.Text.Basic
import BundleHardening.Text.CaseFold
import BundleHardening.Text.Category
import BundleHardening.Text.Letter
import BundleHardening.Text.Script
import BundleHardening.Text.Word

/-!
# Sets of characters

What one position of a pattern may hold.  A class is kept as written, as an expression over named
sets and ranges, and is never expanded into a list of characters; `contains` reads it.
-/

set_option autoImplicit false

namespace BundleHardening

/-- A set of characters. -/
inductive Class where
  | nothing
  | anything
  | single (c : Char)
  | range (first last : Char)
  | word
  | digit
  | blank
  | alphabetic
  | category (kind : Category)
  | script (index : Nat)
  | union (a b : Class)
  | inter (a b : Class)
  | minus (a b : Class)
  | compl (a : Class)
  | folded (a : Class)
  deriving DecidableEq, Repr

namespace Class

/-- Whether the class holds the character.  A folded class holds every character that differs from
a member in case only. -/
def contains : Class → Char → Bool
  | nothing, _ => false
  | anything, _ => true
  | single d, c => d == c
  | range first last, c => first ≤ c && c ≤ last
  | word, c => isWord c
  | digit, c => isDecimalDigit c
  | blank, c => isBlank c
  | alphabetic, c => isAlphabetic c
  | category kind, c => kind.contains c
  | script index, c => (Script.all[index]?).any fun s => s.ranges.contains c.toNat
  | union a b, c => a.contains c || b.contains c
  | inter a b, c => a.contains c && b.contains c
  | minus a b, c => a.contains c && !b.contains c
  | compl a, c => !a.contains c
  | folded a, c => (caseOrbit c).any fun d => a.contains d

/-- The characters that are in one class and not in the other. -/
def symmetric (a b : Class) : Class :=
  .union (.minus a b) (.minus b a)

/-- The union of a list of classes. -/
def ofList : List Class → Class
  | [] => nothing
  | [a] => a
  | a :: rest => union a (ofList rest)

/-- Every character but the line feed. -/
def anyButNewline : Class :=
  compl (single '\n')

/-- Every character but the line feed and the carriage return. -/
def anyButLineEnd : Class :=
  compl (union (single '\r') (single '\n'))

/-- The ASCII characters. -/
def ascii : Class :=
  range '\x00' '\x7f'

/-- The ASCII decimal digits. -/
def asciiDigit : Class :=
  range '0' '9'

/-- The ASCII letters. -/
def asciiAlpha : Class :=
  union (range 'A' 'Z') (range 'a' 'z')

/-- The ASCII word characters. -/
def asciiWord : Class :=
  ofList [asciiDigit, range 'A' 'Z', single '_', range 'a' 'z']

/-- The ASCII blank characters. -/
def asciiBlank : Class :=
  union (range '\t' '\r') (single ' ')

/-- Whether every member is ASCII, read off the expression; a complement never passes. -/
def isAscii : Class → Bool
  | nothing => true
  | single c => c.toNat < 128
  | range first last => last.toNat < 128 || last < first
  | union a b => a.isAscii && b.isAscii
  | inter a b => a.isAscii || b.isAscii
  | minus a _ => a.isAscii
  | _ => false

/-- The set that a bracketed name such as `alpha` stands for, all of it ASCII. -/
def posix? (name : String) : Option Class :=
  match name with
  | "alnum" => some (union asciiDigit asciiAlpha)
  | "alpha" => some asciiAlpha
  | "ascii" => some ascii
  | "blank" => some (union (single '\t') (single ' '))
  | "cntrl" => some (union (range '\x00' '\x1f') (single '\x7f'))
  | "digit" => some asciiDigit
  | "graph" => some (range '!' '~')
  | "lower" => some (range 'a' 'z')
  | "print" => some (range ' ' '~')
  | "punct" => some (ofList [range '!' '/', range ':' '@', range '[' '\x60', range '\x7b' '~'])
  | "space" => some asciiBlank
  | "upper" => some (range 'A' 'Z')
  | "word" => some asciiWord
  | "xdigit" => some (ofList [asciiDigit, range 'A' 'F', range 'a' 'f'])
  | _ => none

/-- The class of the given code point ranges. -/
def ofCodes (bounds : List (Nat × Nat)) : Class :=
  ofList (bounds.map fun (first, last) => range (Char.ofNat first) (Char.ofNat last))

/-- Capital letters, and the other characters that count as capitals. -/
def uppercase : Class :=
  union (category .uppercaseLetter)
    (ofCodes [(0x2160, 0x216F), (0x24B6, 0x24CF), (0x1F130, 0x1F149), (0x1F150, 0x1F169),
      (0x1F170, 0x1F189)])

/-- Small letters, and the other characters that count as small. -/
def lowercase : Class :=
  union (category .lowercaseLetter)
    (ofCodes [(0xAA, 0xAA), (0xBA, 0xBA), (0x2B0, 0x2B8), (0x2C0, 0x2C1), (0x2E0, 0x2E4),
      (0x345, 0x345), (0x37A, 0x37A), (0x10FC, 0x10FC), (0x1D2C, 0x1D6A), (0x1D78, 0x1D78),
      (0x1D9B, 0x1DBF), (0x2071, 0x2071), (0x207F, 0x207F), (0x2090, 0x209C), (0x2170, 0x217F),
      (0x24D0, 0x24E9), (0x2C7C, 0x2C7D), (0xA69C, 0xA69D), (0xA770, 0xA770), (0xA7F2, 0xA7F4),
      (0xA7F8, 0xA7F9), (0xAB5C, 0xAB5F), (0xAB69, 0xAB69), (0x10780, 0x10780),
      (0x10783, 0x10785), (0x10787, 0x107B0), (0x107B2, 0x107BA), (0x1E030, 0x1E06D)])

/-- A property name or value in loose spelling: lower case, without blanks, hyphens and
underscores. -/
def looseName (name : Text) : String :=
  let kept := name.filter fun c => !(c == ' ' || c == '_' || c == '-')
  let lower := kept.map Char.toLower
  let stem := match lower with
    | 'i' :: 's' :: rest => if rest == ['c'] then lower else rest
    | _ => lower
  String.ofList stem

/-- The class of the general category of the given name. -/
def ofCategory? (name : String) : Option Class :=
  match name with
  | "any" => some anything
  | "ascii" => some ascii
  | "assigned" => some (compl (category .unassigned))
  | _ => (Category.named? name).map fun kinds => ofList (kinds.map category)

/-- The class of the script of the given name. -/
def ofScript? (name : String) : Option Class :=
  (Script.all.findIdx? fun s => s.names.contains name).map script

/-- The class of a property given by name alone: a general category, a script, or one of the binary
properties kept here. -/
def ofProperty? (name : Text) : Option Class :=
  let name := looseName name
  match name with
  | "alphabetic" | "alpha" => some alphabetic
  | "whitespace" | "wspace" | "space" => some blank
  | "uppercase" | "upper" => some uppercase
  | "lowercase" | "lower" => some lowercase
  | _ => ofCategory? name <|> ofScript? name

/-- The class of a property given by name and value. -/
def ofPropertyValue? (name value : Text) : Option Class :=
  match looseName name with
  | "gc" | "generalcategory" => ofCategory? (looseName value)
  | "sc" | "script" | "scx" | "scriptextensions" => ofScript? (looseName value)
  | _ => none

end Class

end BundleHardening
