import BundleHardening.File.Error
import BundleHardening.File.Path

/-!
# The file tree

A file tree says what stands at each location, and where nothing may be written.  A path is followed from
the root or from a working directory, name by name: each name but the last must be that of a directory.  A
write takes the place of what a file held, an append goes behind it, and both create a file that is not
there.  A file that could be opened takes what is written to it; where it does not is for the machine to say.
-/

set_option autoImplicit false

namespace BundleHardening

/-- A place in the file tree: the names on the way to it, the innermost first. -/
abbrev Location := List Text

/-- What stands at a location. -/
inductive FileNode where
  | directory
  | file (content : ByteArray)

/-- Files are the same when their bytes are. -/
instance : DecidableEq FileNode
  | .directory, .directory => .isTrue rfl
  | .directory, .file _ => .isFalse nofun
  | .file _, .directory => .isFalse nofun
  | .file a, .file b => decidable_of_decidable_of_iff (p := a.data = b.data)
    ⟨fun h => congrArg FileNode.file (ByteArray.ext h), fun h => by cases h; rfl⟩

/-- The directories and files below the root, and the locations that are locked: a file there is not opened
for writing, and nothing is created there. -/
structure FileTree where
  entries : List (Location × FileNode) := []
  locked : List Location := []

namespace FileTree

/-- What stands at a location; the root is a directory. -/
def node? (t : FileTree) : Location → Option FileNode
  | [] => some .directory
  | l => t.entries.lookup l

/-- Replaces the entry of a location, or adds one at the end. -/
def putIn (l : Location) (n : FileNode) : List (Location × FileNode) → List (Location × FileNode)
  | [] => [(l, n)]
  | (k, m) :: rest => if k = l then (l, n) :: rest else (k, m) :: putIn l n rest

/-- The tree with a node put at a location. -/
def put (t : FileTree) (l : Location) (n : FileNode) : FileTree :=
  { t with entries := putIn l n t.entries }

/-! ## Following a path -/

/-- The greatest number of bytes of a name. -/
def nameLimit : Nat := 255

/-- The number of bytes that a path must not reach. -/
def pathLimit : Nat := 4096

/-- Goes from a location to what a name stands for there. -/
def step (t : FileTree) (l : Location) (name : Text) : Except FileError Location :=
  match t.node? l with
  | none => .error .notFound
  | some (.file _) => .error .notADirectory
  | some .directory =>
    if Path.isIdle name then .ok l
    else if name = ['.', '.'] then .ok l.tail
    else if nameLimit < Text.byteSize name then .error .nameTooLong
    else if (t.node? (name :: l)).isSome then .ok (name :: l)
    else .error .notFound

/-- Goes from a location along names. -/
def follow (t : FileTree) : Location → List Text → Except FileError Location
  | l, [] => .ok l
  | l, name :: names => do
    let l ← t.step l name
    t.follow l names

/-- A path as the file tree follows it. -/
structure Route where
  start : Location
  names : List Text

/-- Where a path begins and the names along it. -/
def route (directory : Location) (p : Path) : Except FileError Route :=
  if p.isEmpty then .error .notFound
  else if p.contains '\x00' then .error .nulInName
  else if pathLimit ≤ Text.byteSize p then .error .nameTooLong
  else .ok ⟨if p.isAbsolute then [] else directory, p.pieces⟩

/-- The location that a path leads to. -/
def locate (t : FileTree) (directory : Location) (p : Path) : Except FileError Location := do
  let r ← route directory p
  t.follow r.start r.names

/-- Whether a path leads anywhere. -/
def leadsSomewhere (t : FileTree) (directory : Location) (p : Path) : Bool :=
  match t.locate directory p with
  | .ok _ => true
  | .error _ => false

/-- Whether a path leads to a directory. -/
def leadsToDirectory (t : FileTree) (directory : Location) (p : Path) : Bool :=
  match t.locate directory p with
  | .ok l => t.node? l == some .directory
  | .error _ => false

/-! ## New entries -/

/-- Where a new entry would stand: the last name of a path, in the directory that the names before it
lead to, and whether a slash follows the name.  There is none when the path ends in no name of its
own. -/
structure Opening where
  directory : Location
  name : Text
  closed : Bool

/-- Finds the place of a new entry. -/
def opening? (t : FileTree) (directory : Location) (p : Path) :
    Except FileError (Option Opening) := do
  let r ← route directory p
  let ending := r.names.reverse.takeWhile List.isEmpty
  match r.names.reverse.dropWhile List.isEmpty with
  | [] => .ok none
  | last :: before =>
    let l ← t.follow r.start before.reverse
    if t.node? l != some .directory then .error .notADirectory
    else if last = ['.'] || last = ['.', '.'] then .ok none
    else .ok (some ⟨l, last, !ending.isEmpty⟩)

/-! ## Operations -/

/-- The bytes of a file. -/
def read (t : FileTree) (directory : Location) (p : Path) : Except FileError ByteArray := do
  let l ← t.locate directory p
  match t.node? l with
  | some (.file content) => .ok content
  | some .directory => .error .isADirectory
  | none => .error .notFound

/-- Opens a file for writing, and creates it if it is not there. -/
def openFile (t : FileTree) (directory : Location) (p : Path) :
    Except FileError (Location × ByteArray) := do
  match ← t.opening? directory p with
  | none => .error .isADirectory
  | some o =>
    if o.closed then .error .isADirectory
    else
      match t.node? (o.name :: o.directory) with
      | some .directory => .error .isADirectory
      | some (.file content) =>
        if o.name :: o.directory ∈ t.locked then .error .notAllowed
        else .ok (o.name :: o.directory, content)
      | none =>
        if nameLimit < Text.byteSize o.name then .error .nameTooLong
        else if o.name :: o.directory ∈ t.locked then .error .notAllowed
        else .ok (o.name :: o.directory, .empty)

/-- Writes a file anew. -/
def write (t : FileTree) (directory : Location) (p : Path) (content : ByteArray) :
    Except FileError FileTree := do
  let (l, _) ← t.openFile directory p
  .ok (t.put l (.file content))

/-- Writes behind what a file holds. -/
def append (t : FileTree) (directory : Location) (p : Path) (content : ByteArray) :
    Except FileError FileTree := do
  let (l, old) ← t.openFile directory p
  .ok (t.put l (.file (old ++ content)))

/-- Creates one directory. -/
def makeDirectory (t : FileTree) (directory : Location) (p : Path) : Except FileError FileTree := do
  match ← t.opening? directory p with
  | none => .error .alreadyThere
  | some o =>
    if (t.node? (o.name :: o.directory)).isSome then .error .alreadyThere
    else if nameLimit < Text.byteSize o.name then .error .nameTooLong
    else if o.name :: o.directory ∈ t.locked then .error .notAllowed
    else .ok (t.put (o.name :: o.directory) .directory)

/-- Creates a directory after those above it were taken care of. -/
def makeLast (t : FileTree) (directory : Location) (p : Path) : FileTree × Except FileError Unit :=
  match t.makeDirectory directory p with
  | .ok t => (t, .ok ())
  | .error e => if t.leadsToDirectory directory p then (t, .ok ()) else (t, .error e)

/-- Creates a directory and those above it that are not there.  What was created before a failure
stays. -/
def makeDirectories (t : FileTree) (directory : Location) (p : Path) :
    FileTree × Except FileError Unit :=
  if p.isEmpty then (t, .ok ())
  else
    match t.makeDirectory directory p with
    | .ok t => (t, .ok ())
    | .error .notFound =>
      match _h : p.parent? with
      | none => (t, .error .noWholeTree)
      | some q =>
        match t.makeDirectories directory q with
        | (t, .error e) => (t, .error e)
        | (t, .ok ()) => t.makeLast directory p
    | .error e => if t.leadsToDirectory directory p then (t, .ok ()) else (t, .error e)
termination_by p.length
decreasing_by exact Path.length_lt_of_parent? (by assumption)

end FileTree

end BundleHardening
