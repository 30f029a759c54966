import BundleHardening.Data
import BundleHardening.Toml.Word

/-!
# Plain values of a TOML document

Truth values, numbers, dates and times.  A date is tried before a number, and a number with a fraction
or an exponent before one without.
-/

set_option autoImplicit false

namespace BundleHardening.Toml

/-! ## Numbers -/

/-- Reads digits between which single underscores may stand. -/
def digitsBy (isDigit : Char → Bool) : Nat → Reader Text
  | 0, _ => none
  | _ + 1, [] => none
  | fuel + 1, c :: t =>
    if isDigit c then
      match t with
      | '_' :: rest => (digitsBy isDigit fuel rest).map fun (ds, t) => (c :: ds, t)
      | d :: _ =>
        if isDigit d then (digitsBy isDigit fuel t).map fun (ds, t) => (c :: ds, t)
        else some ([c], t)
      | [] => some ([c], [])
    else none

/-- Reads decimal digits. -/
def decimalDigits (t : Text) : Option (Text × Text) :=
  digitsBy Char.isDigit (t.length + 1) t

/-- Reads a sign, if there is one: whether it is a minus. -/
def sign : Text → Bool × Text
  | '-' :: t => (true, t)
  | '+' :: t => (false, t)
  | t => (false, t)

/-- Reads the decimal digits of a whole number; a leading zero stands alone. -/
def wholeDigits : Reader Text
  | '0' :: t => some (['0'], t)
  | t => decimalDigits t

/-- A number with its sign. -/
def signed (negative : Bool) (n : Nat) : Int :=
  if negative then -(n : Int) else n

/-- A number of at most 64 bits, one of them for the sign. -/
def bounded? (n : Int) : Option Data :=
  if -Int.ofNat (Nat.pow 2 63) ≤ n ∧ n < Int.ofNat (Nat.pow 2 63) then some (.integer n) else none

/-- Reads the digits of a number in another base. -/
def based (isDigit : Char → Bool) (base : Nat) : Reader Data := fun t => do
  let (ds, t) ← digitsBy isDigit (t.length + 1) t
  let n := ds.foldl (fun n d => n * base + (Text.hexDigit? d).getD 0) 0
  let d ← bounded? n
  some (d, t)

/-- Reads a whole number. -/
def integer : Reader Data
  | '0' :: 'x' :: t => based (fun c => (Text.hexDigit? c).isSome) 16 t
  | '0' :: 'o' :: t => based (fun c => '0' ≤ c && c ≤ '7') 8 t
  | '0' :: 'b' :: t => based (fun c => c == '0' || c == '1') 2 t
  | t => do
    let (negative, t) := sign t
    let (ds, t) ← wholeDigits t
    let d ← bounded? (signed negative (Text.decimal ds))
    some (d, t)

/-- Reads an exponent. -/
def exponent : Reader Int
  | c :: t =>
    if c == 'e' || c == 'E' then do
      let (negative, t) := sign t
      let (ds, t) ← decimalDigits t
      some (signed negative (Text.decimal ds), t)
    else none
  | [] => none

/-- Reads a number with a fraction, an exponent or both.  A positive number beyond double precision
is refused. -/
def fraction (t : Text) : Option (Data × Text) := do
  let (negative, t) := sign t
  match t with
  | 'i' :: 'n' :: 'f' :: t | 'n' :: 'a' :: 'n' :: t => some (.fraction, t)
  | t =>
    let (before, t) ← wholeDigits t
    let (after, e, t) ← match t with
      | '.' :: t => do
        let (after, t) ← decimalDigits t
        match t with
        | 'e' :: _ | 'E' :: _ => (exponent t).map fun (e, t) => (after, e, t)
        | t => some (after, 0, t)
      | t => (exponent t).map fun (e, t) => ([], e, t)
    if !negative && Text.isBeyondDouble (Text.decimal (before ++ after)) (e - after.length) then none
    else some (.fraction, t)

/-! ## Dates and times -/

/-- Reads exactly so many decimal digits. -/
def fixedDigits (count : Nat) (t : Text) : Option (Nat × Text) :=
  let ds := t.take count
  if ds.length = count ∧ ds.all Char.isDigit then some (Text.decimal ds, t.drop count) else none

/-- Reads a number of two digits within bounds. -/
def twoDigits (least most : Nat) (t : Text) : Option (Nat × Text) := do
  let (n, t) ← fixedDigits 2 t
  if least ≤ n ∧ n ≤ most then some (n, t) else none

/-- What is left behind one fixed character. -/
def mark (c : Char) : Text → Option Text
  | d :: t => if d = c then some t else none
  | [] => none

/-- Whether the year has a 29th of February. -/
def isLeapYear (year : Nat) : Bool :=
  year % 4 == 0 && (year % 100 != 0 || year % 400 == 0)

/-- The number of days of a month. -/
def daysOf (year month : Nat) : Nat :=
  if month = 2 then (if isLeapYear year then 29 else 28)
  else if month ∈ [4, 6, 9, 11] then 30
  else 31

/-- What is left behind a date. -/
def date? (t : Text) : Option Text := do
  let (year, t) ← fixedDigits 4 t
  let t ← mark '-' t
  let (month, t) ← twoDigits 1 12 t
  let t ← mark '-' t
  let (_, t) ← twoDigits 1 (daysOf year month) t
  some t

/-- What is left behind a time of day. -/
def time? (t : Text) : Option Text := do
  let (_, t) ← twoDigits 0 23 t
  let t ← mark ':' t
  let (_, t) ← twoDigits 0 59 t
  let t ← mark ':' t
  let (_, t) ← twoDigits 0 60 t
  match t with
  | '.' :: t =>
    match t.takeWhile Char.isDigit with
    | [] => none
    | ds => some (t.drop ds.length)
  | t => some t

/-- What is left behind the distance to Greenwich, if one stands there. -/
def offset? : Text → Option Text
  | 'Z' :: t | 'z' :: t => some t
  | '+' :: t | '-' :: t => do
    let (_, t) ← twoDigits 0 23 t
    let t ← mark ':' t
    let (_, t) ← twoDigits 0 59 t
    some t
  | t => some t

/-- Reads a date, a time of day, or both. -/
def moment (t : Text) : Option (Data × Text) :=
  match date? t with
  | none => (time? t).map fun t => (.moment, t)
  | some rest =>
    match rest with
    | c :: t =>
      if c == 'T' || c == 't' || c == ' ' then
        match time? t with
        | some t => (offset? t).map fun t => (.moment, t)
        | none => some (.moment, c :: t)
      else some (.moment, c :: t)
    | [] => some (.moment, [])

/-! ## Plain values -/

/-- Reads a value that is neither a string nor holds other values. -/
def plain : Reader Data
  | 't' :: 'r' :: 'u' :: 'e' :: t => some (.flag true, t)
  | 'f' :: 'a' :: 'l' :: 's' :: 'e' :: t => some (.flag false, t)
  | t => (moment t).orElse fun _ => (fraction t).orElse fun _ => integer t

end BundleHardening.Toml
