import BundleHardening.Toml.Plain
import BundleHardening.Toml.Table

/-!
# Reading a TOML document

A document is a list of lines: keys with values, each in the table of the header above it.  It is read
to data, or not at all.
-/

set_option autoImplicit false

namespace BundleHardening.Toml

/-- A key with its value: the names before the last, the last name, and the value. -/
structure Assignment where
  way : List Text
  name : Text
  value : Data

/-- Adds assignments to the members of a table. -/
def Members.addAll (members : Members) (assignments : List Assignment) : Option Members :=
  assignments.foldlM (fun members a => members.addValue a.name a.value a.way) members

/-- The assignment of a value to a key. -/
def assignment? (names : List Text) (value : Data) : Option Assignment :=
  match names.reverse with
  | [] => none
  | name :: before => some ⟨before.reverse, name, value⟩

mutual

/-- Reads a value that stands inside so many others. -/
def value : Nat → (depth : Nat) → Reader Data
  | 0, _, _ => none
  | fuel + 1, depth, t =>
    match t with
    | '"' :: _ | '\'' :: _ => (string t).map fun (s, t) => (.text s, t)
    | '[' :: t =>
      if depth + 1 < nestLimit then (items fuel (depth + 1) t).map fun (ds, t) => (.list ds, t)
      else none
    | '\x7b' :: t =>
      if depth + 1 < nestLimit then
        match skipSpace t with
        | '\x7d' :: t => some (.record [], t)
        | _ => do
          let (as, t) ← assignments fuel (depth + 1) t
          let members ← Members.addAll [] as
          some (.record (Item.membersData members), t)
      else none
    | t => plain t

/-- Reads the items of a list behind its opening bracket, or behind a comma. -/
def items : Nat → (depth : Nat) → Reader (List Data)
  | 0, _, _ => none
  | fuel + 1, depth, t =>
    match skipLines (t.length + 1) t with
    | ']' :: t => some ([], t)
    | t => do
      let (d, t) ← value fuel depth t
      match skipLines (t.length + 1) t with
      | ',' :: t => do
        let (ds, t) ← items fuel depth t
        some (d :: ds, t)
      | ']' :: t => some ([d], t)
      | _ => none

/-- Reads the assignments of a table that stands on one line, up to its closing brace. -/
def assignments : Nat → (depth : Nat) → Reader (List Assignment)
  | 0, _, _ => none
  | fuel + 1, depth, t => do
    let (names, t) ← key t
    let t ← mark '=' t
    let (d, t) ← value fuel depth (skipSpace t)
    let a ← assignment? names d
    match skipSpace t with
    | ',' :: t => do
      let (as, t) ← assignments fuel depth t
      some (a :: as, t)
    | '\x7d' :: t => some ([a], t)
    | _ => none

end

/-- A line of a document that is not empty. -/
inductive Line where
  | assign (a : Assignment)
  | table (names : List Text)
  | row (names : List Text)

/-- Reads a line that is not empty, to its end. -/
def line : Reader Line
  | '[' :: '[' :: t => do
    let (names, t) ← key t
    let t ← mark ']' t
    let t ← mark ']' t
    let t ← lineEnd? t
    some (.row names, t)
  | '[' :: t => do
    let (names, t) ← key t
    let t ← mark ']' t
    let t ← lineEnd? t
    some (.table names, t)
  | t => do
    let (names, t) ← key t
    let t ← mark '=' t
    let (d, t) ← value (t.length + 1) 0 (skipSpace t)
    let a ← assignment? names d
    let t ← lineEnd? t
    some (.assign a, t)

/-- Reads the lines of a document. -/
def lines : Nat → Text → Option (List Line)
  | 0, _ => none
  | fuel + 1, t =>
    match skipLines (t.length + 1) t with
    | [] => some []
    | '#' :: rest => (lineEnd? ('#' :: rest)).bind (lines fuel)
    | t => do
      let (l, t) ← line t
      let ls ← lines fuel t
      some (l :: ls)

/-- The assignments before the next header, and the lines from there on. -/
def upToHeader : List Line → List Assignment × List Line
  | .assign a :: rest =>
    let (as, rest) := upToHeader rest
    (a :: as, rest)
  | ls => ([], ls)

/-- Adds the tables of a document to the members of its root. -/
def addSections : Nat → List Line → Members → Option Members
  | 0, _, _ => none
  | _ + 1, [], members => some members
  | fuel + 1, l :: ls, members => do
    let (as, ls) := upToHeader ls
    let members ← match l with
      | .assign a => members.addAll (a :: as)
      | .table names =>
        match names.reverse with
        | [] => none
        | name :: before =>
          members.alterAt (Members.addTable name fun inner => inner.addAll as) before.reverse
      | .row names =>
        match names.reverse with
        | [] => none
        | name :: before =>
          members.alterAt (Members.addRow name fun inner => inner.addAll as) before.reverse
    addSections fuel ls members

/-- The text without the mark that may stand before a document. -/
def skipMark : Text → Text
  | '\uFEFF' :: t => t
  | t => t

/-- The content of a document. -/
def read? (t : Text) : Option Data := do
  let ls ← lines (t.length + 1) (skipMark t)
  let members ← addSections (ls.length + 1) ls []
  some (.record (Item.membersData members))

end BundleHardening.Toml
