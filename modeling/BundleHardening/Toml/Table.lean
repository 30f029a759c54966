import BundleHardening.Data

/-!
# Tables under construction

While a TOML document is read, each table remembers how it came to be: by a header of its own, as a
step on the way of a header, or by the points of a key.  A table of its own header is complete with
its lines; one on the way may still get a header; and one that came by points is extended only so.
-/

set_option autoImplicit false

namespace BundleHardening.Toml

/-- How a table came to be. -/
inductive Origin where
  | header
  | onTheWay
  | points
  deriving DecidableEq, Repr

/-- What stands under a name while a document is read. -/
inductive Item where
  | value (d : Data)
  | table (origin : Origin) (members : List (Text × Item))
  | rows (rows : List (List (Text × Item)))

/-- The members of a table. -/
abbrev Members := List (Text × Item)

namespace Item

mutual

/-- The content of an item. -/
def data : Item → Data
  | value d => d
  | table _ members => .record (membersData members)
  | rows rs => .list (rowsData rs)

/-- The content of the members of a table. -/
def membersData : List (Text × Item) → List (Text × Data)
  | [] => []
  | (name, item) :: rest => (name, item.data) :: membersData rest

/-- The content of the rows of a table that has many. -/
def rowsData : List (List (Text × Item)) → List Data
  | [] => []
  | members :: rest => .record (membersData members) :: rowsData rest

end

end Item

namespace Members

/-- Replaces what stands under a name by what `f` makes of it, or adds it at the end. -/
def alter (name : Text) (f : Option Item → Option Item) : Members → Option Members
  | [] => (f none).map fun item => [(name, item)]
  | (key, item) :: rest =>
    if key = name then (f (some item)).map fun item => (key, item) :: rest
    else (alter name f rest).map fun rest => (key, item) :: rest

/-- Changes the last row. -/
def alterLast (f : Members → Option Members) : List Members → Option (List Members)
  | [] => none
  | [row] => (f row).map fun row => [row]
  | row :: rest => (alterLast f rest).map fun rest => row :: rest

/-- Adds a value under a key of which `way` are the names before the last. -/
def addValue (name : Text) (d : Data) : (way : List Text) → Members → Option Members
  | [], members => members.alter name fun
    | none => some (.value d)
    | some _ => none
  | step :: way, members => members.alter step fun
    | none => (addValue name d way []).map (.table .points)
    | some (.table .header _) => none
    | some (.table .onTheWay inner) =>
      if way.isEmpty then none else (addValue name d way inner).map (.table .onTheWay)
    | some (.table .points inner) => (addValue name d way inner).map (.table .points)
    | some (.rows rows) =>
      if way.isEmpty then none else (alterLast (addValue name d way) rows).map .rows
    | some (.value _) => none

/-- Changes the table that the names of a header lead to; those on the way are added if need be, and
of rows the last is entered. -/
def alterAt (f : Members → Option Members) : (way : List Text) → Members → Option Members
  | [], members => f members
  | step :: way, members => members.alter step fun
    | none => (alterAt f way []).map (.table .onTheWay)
    | some (.table origin inner) => (alterAt f way inner).map (.table origin)
    | some (.rows rows) => (alterLast (alterAt f way) rows).map .rows
    | some (.value _) => none

/-- Puts a table under a name, filled by `fill`: a new one, or one that stood on the way of another
header. -/
def addTable (name : Text) (fill : Members → Option Members) (members : Members) : Option Members :=
  members.alter name fun
    | none => (fill []).map (.table .header)
    | some (.table .onTheWay inner) => (fill inner).map (.table .header)
    | some _ => none

/-- Puts one more row under a name, filled by `fill`. -/
def addRow (name : Text) (fill : Members → Option Members) (members : Members) : Option Members :=
  members.alter name fun
    | none => (fill []).map fun row => .rows [row]
    | some (.rows rows) => (fill []).map fun row => .rows (rows ++ [row])
    | some _ => none

end Members

end BundleHardening.Toml
