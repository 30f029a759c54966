import BundleHardening.CommandLine.Rewrite

/-!
# Checking files

Each file is hardened without writing anything.  The report says for each whether it can be hardened,
how its modules are held, and which of the safe copies it never mentions.
-/

set_option autoImplicit false

namespace BundleHardening.CommandLine

/-- What a check found out about one file. -/
structure FileReport where
  file : Path
  isHardened : Bool
  layout : Option Layout := none
  rule : Option Text := none
  error : Option Text := none
  undeclared : List Text := []

namespace FileReport

/-- The report on a text. -/
def ofSource (file : Path) (chunk : Chunk) (source : Text) : FileReport :=
  let layout := Registry.detectLayout source
  match (({} : Hardener).render source chunk).result with
  | .ok _ =>
    { file := file, isHardened := true, layout := layout, undeclared := SafeBindings.missing source }
  | .error e =>
    { file := file, isHardened := false, layout := layout, rule := some e.rule.toList,
      error := some e.message.toList }

/-- Reports on a file. -/
def ofFile (chunk : Chunk) (file : Path) : Program FileReport := do
  match ← Program.readText file with
  | .error e =>
    pure { file := file, isHardened := false,
           error := some ("cannot read: ".toList ++ e.message.toList) }
  | .ok source => pure (ofSource file chunk source)

/-- Reports on files, one after another. -/
def ofFiles (chunk : Chunk) : List Path → Program (List FileReport)
  | [] => pure []
  | file :: rest => do
    let report ← ofFile chunk file
    let reports ← ofFiles chunk rest
    pure (report :: reports)

/-! ## In words -/

/-- The words for how the modules are held. -/
def layoutText (r : FileReport) : Text :=
  match r.layout with
  | some layout => layout.label.toList
  | none => "no registry".toList

/-- The lines on one file. -/
def lines (colours : Bool) (r : FileReport) : List Text :=
  let paint := Terminal.paint colours
  let about := [' '] ++ r.file ++ " (".toList ++ r.layoutText ++ [')']
  if r.isHardened then
    (paint (Terminal.Style.of .green).bold "OK  ".toList ++ about) ::
      (if r.undeclared.isEmpty then []
       else
        ["     ".toList ++ paint (.of .yellow) "note:".toList ++
          " bundle never mentions ".toList ++ Json.joined ", ".toList r.undeclared ++
          "; declare them around the chunk or use --prelude".toList])
  else
    [paint (Terminal.Style.of .red).bold "FAIL".toList ++ about] ++
      (r.rule.map fun rule => "     rule:  ".toList ++ paint (.of .yellow) rule).toList ++
      (r.error.map fun error => "     error: ".toList ++ error).toList

/-! ## As JSON -/

/-- One member of an object on a line of its own. -/
def member (name : String) (value : Text) : Text :=
  "    ".toList ++ Json.quote name.toList ++ ": ".toList ++ value

/-- A list of strings, one a line. -/
def listText (ts : List Text) : Text :=
  "[\n".toList ++
    Json.joined ",\n".toList (ts.map fun t => "      ".toList ++ Json.quote t) ++ "\n    ]".toList

/-- The object on one file. -/
def object (r : FileReport) : Text :=
  let members :=
    [member "file" (Json.quote r.file), member "ok" (if r.isHardened then "true" else "false").toList] ++
    (r.layout.map fun layout => member "layout" (Json.quote layout.label.toList)).toList ++
    (r.rule.map fun rule => member "rule" (Json.quote rule)).toList ++
    (r.error.map fun error => member "error" (Json.quote error)).toList ++
    (if r.undeclared.isEmpty then []
     else [member "undeclared_bindings" (listText r.undeclared)])
  "  \x7b\n".toList ++ Json.joined ",\n".toList members ++ "\n  \x7d".toList

/-- The list of objects on files. -/
def document (rs : List FileReport) : Text :=
  if rs.isEmpty then "[]".toList
  else "[\n".toList ++ Json.joined ",\n".toList (rs.map object) ++ "\n]".toList

end FileReport

/-- Prints lines of output. -/
def printLines : List Text → Program Unit
  | [] => pure ()
  | t :: rest => do
    Program.line t
    printLines rest

/-- Checks files. -/
def check (s : Setting) (files : List Path) (chunkName : Option Text) (format : ReportFormat) :
    Program (Except Text Unit) := do
  let reports ← FileReport.ofFiles (s.chunk chunkName) files
  match format with
  | .json => Program.line (FileReport.document reports)
  | .pretty => printLines (reports.flatMap (FileReport.lines s.colours))
  let failed := (reports.filter fun r => !r.isHardened).length
  if failed = 0 then pure (.ok ())
  else
    pure (.error (Entry.digits failed ++ " of ".toList ++ Entry.digits reports.length ++
      " file(s) cannot be hardened".toList))

end BundleHardening.CommandLine
