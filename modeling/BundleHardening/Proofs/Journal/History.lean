import BundleHardening.Proofs.Host.Files
import BundleHardening.Proofs.Journal.Line

/-!
# What a journal holds

A journal is told of one chunk after another, at one time after another.  Its file then holds what it held
before, and behind that a line for each chunk that the journal records, in order (`node?_recorded`).
-/

set_option autoImplicit false

namespace BundleHardening

deriving instance DecidableEq for Journal

/-- What a journal is told of a chunk. -/
inductive Occurrence where
  | rewritten (chunk : String) (report : RenderReport) (microseconds : Nat)
  | refused (chunk : String) (inputBytes : Nat) (e : RewriteError)

namespace Occurrence

/-- Whether a journal with such a filter records what it is told. -/
def passes (filter : EventFilter) : Occurrence → Bool
  | rewritten _ _ _ => filter.success
  | refused _ _ _ => filter.failure

/-- The entry, at a time. -/
def entry (seconds : Nat) : Occurrence → Entry
  | rewritten chunk report us => .rewritten (Timestamp.ofSeconds seconds) chunk report us
  | refused chunk inputBytes e => .refused (Timestamp.ofSeconds seconds) chunk inputBytes e

/-- The texts that are taken into the line as they are. -/
def texts : Occurrence → List Text
  | rewritten chunk _ _ => [chunk.toList]
  | refused chunk _ e => [chunk.toList, e.rule.toList, e.message.toList]

end Occurrence

namespace Journal

variable {j : Journal} {m : Machine} {p : Path} {l : Location} {old : ByteArray} {s : JournalSettings}
  {env : Environment}

/-- Tells the journal of a chunk. -/
def record (j : Journal) : Occurrence → Program Unit
  | .rewritten chunk report us => j.addRewritten chunk report us
  | .refused chunk inputBytes e => j.addRefused chunk inputBytes e

/-- The machine after the journal was told of chunks, each at its time. -/
def recorded (j : Journal) (m : Machine) : List (Nat × Occurrence) → Machine
  | [] => m
  | (now, o) :: history => j.recorded ((j.record o).run { m with seconds := now }).1 history

/-- The lines for what the journal records, without their ends. -/
def lines (j : Journal) (history : List (Nat × Occurrence)) : List Text :=
  (history.filter fun h => h.2.passes j.events).map fun h => j.line (h.2.entry h.1)

/-! ## Opening -/

/-- Where the directory above is there or can be created, the file is opened with what it held. -/
theorem opens_appendFile_empty {files : FileTree} (hfurnished : m.files.Furnished files)
    (hopen : ((Program.appendFile p .empty .done).run { m with files := files }).2 = .ok ()) :
    ∃ l, ((Program.appendFile p .empty .done).run { m with files := files }).1.Opens p l
      (m.files.contentAt l) := by
  cases hfile : files.openFile m.directory p with
  | error e =>
    rw [Program.run, FileTree.append, hfile] at hopen
    cases hopen
  | ok opened =>
    obtain ⟨l, old⟩ := opened
    obtain ⟨-, -, -, -, -, -, hold⟩ := FileTree.of_openFile hfile
    have hopens := Machine.opens_withFile (m := { m with files := files }) hfile old
    refine ⟨l, ?_⟩
    rw [Program.run_appendFile hfile, ByteArray.append_empty, ← hfurnished.content, ← hold]
    exact hopens

/-- A file that can be opened stands open with what it held. -/
theorem opens_openFile (hopen : ((openFile p).run m).2 = .ok ()) :
    ∃ l, ((openFile p).run m).1.Opens p l (m.files.contentAt l) := by
  rw [openFile] at hopen ⊢
  cases hparent : p.parent? with
  | none =>
    rw [hparent] at hopen
    exact opens_appendFile_empty (.refl _) hopen
  | some directory =>
    rw [hparent] at hopen
    dsimp only at hopen ⊢
    rw [Program.bind_eq, Program.run_andThen] at hopen ⊢
    have hfurnished := m.files.furnished_makeDirectories m.directory directory
    dsimp only [Program.run] at hopen ⊢
    cases hmade : (m.files.makeDirectories m.directory directory).2 with
    | error e => rw [hmade] at hopen; cases hopen
    | ok made =>
      rw [hmade] at hopen
      exact opens_appendFile_empty hfurnished hopen

/-- The file of a journal that was opened stands open with what it held. -/
theorem opens_open? (hopen : ((open? s env).run m).2 = some ⟨s.format, s.events, some p⟩) :
    ∃ l, ((open? s env).run m).1.Opens p l (m.files.contentAt l) := by
  rw [open?] at hopen ⊢
  cases henabled : s.enabled with
  | false => rw [henabled] at hopen; cases hopen
  | true =>
    rw [henabled, if_pos rfl] at hopen
    rw [if_pos rfl]
    cases hfile : s.file with
    | none => rw [hfile] at hopen; cases hopen
    | some given =>
      rw [hfile] at hopen
      dsimp only at hopen ⊢
      rw [Program.bind_eq, Program.run_andThen] at hopen ⊢
      cases hresult : ((openFile (env.expandHome given)).run m).2 with
      | error e => rw [hresult] at hopen; cases hopen
      | ok u =>
        rw [hresult] at hopen
        cases hopen
        exact opens_openFile hresult

/-! ## Recording -/

/-- An entry is added as a line behind what the file holds. -/
theorem run_add (hfile : j.file = some p) (h : m.Opens p l old) (e : Entry) :
    ((j.add e).run m).1 = m.withFile l (old ++ Text.toBytes (j.line e ++ ['\n'])) := by
  rw [add, hfile]
  dsimp only
  rw [Program.run_appendFile h.opens]
  rfl

/-- What passes the filter is added as an entry, with the time that it then is. -/
theorem record_eq (j : Journal) (o : Occurrence) :
    j.record o = if o.passes j.events then Program.seconds fun now => j.add (o.entry now) else pure () := by
  cases o <;> rfl

/-- What the journal is told becomes a line behind what the file holds, if the journal records it. -/
theorem run_record (hfile : j.file = some p) (h : m.Opens p l old) (o : Occurrence) :
    ((j.record o).run m).1 =
      if o.passes j.events then m.withFile l (old ++ Text.toBytes (j.line (o.entry m.seconds) ++ ['\n']))
      else m := by
  rw [record_eq]
  split
  · exact run_add hfile h _
  · rfl

/-- The file stands open with a line more for each chunk that the journal records. -/
theorem opens_recorded (hfile : j.file = some p) (h : m.Opens p l old) (history : List (Nat × Occurrence)) :
    (j.recorded m history).Opens p l
      (old ++ Text.toBytes ((j.lines history).flatMap (· ++ ['\n']))) := by
  induction history generalizing m old with
  | nil => simpa [recorded, lines, Text.toBytes_nil] using h
  | cons told history ih =>
    obtain ⟨now, o⟩ := told
    have hnow : { m with seconds := now }.Opens p l old := ⟨h.opens, h.holds⟩
    rw [recorded, run_record hfile hnow]
    cases hpasses : o.passes j.events with
    | false =>
      have hlines : j.lines ((now, o) :: history) = j.lines history := by simp [lines, hpasses]
      rw [if_neg (by simp), hlines]
      exact ih hnow
    | true =>
      have hlines : j.lines ((now, o) :: history) = j.line (o.entry now) :: j.lines history := by
        simp [lines, hpasses]
      rw [if_pos rfl, hlines, List.flatMap_cons, Text.toBytes_append (j.line _ ++ ['\n']),
        ← ByteArray.append_assoc]
      exact ih (Machine.opens_withFile hnow.opens _)

/-- A line breaks where the journal writes words, and a text that it takes in breaks. -/
theorem newline_mem_line (j : Journal) (now : Nat) (o : Occurrence) :
    '\n' ∈ j.line (o.entry now) ↔ j.format = .text ∧ ∃ t ∈ o.texts, '\n' ∈ t := by
  have htimestamp : '\n' ∉ Timestamp.ofSeconds now :=
    fun h => absurd (Timestamp.le_of_mem_ofSeconds h) (by decide)
  rw [line]
  cases j.format with
  | json =>
    refine iff_of_false (fun h => absurd (Entry.le_of_mem_jsonLine h) (by decide)) ?_
    rintro ⟨⟨⟩, -⟩
  | text =>
    dsimp only
    rw [Entry.newline_mem_textLine]
    cases o <;> simp [Occurrence.entry, Entry.rewritten, Entry.refused, Occurrence.texts, htimestamp]

/-- The file of a journal that was opened holds what it held before, and behind that one line for each chunk
that the journal records, in order.  A line is a single one, unless it is written in words and the name of
the chunk, the rule or the error breaks. -/
theorem node?_recorded (s : JournalSettings) (env : Environment) (m : Machine) (p : Path)
    (hopen : ((open? s env).run m).2 = some ⟨s.format, s.events, some p⟩) :
    let j : Journal := ⟨s.format, s.events, some p⟩
    let opened := ((open? s env).run m).1
    ∃ l, opened.files.openFile opened.directory p = .ok (l, m.files.contentAt l) ∧
      ∀ history : List (Nat × Occurrence),
        (j.recorded opened history).files.node? l =
            some (.file (m.files.contentAt l ++ Text.toBytes ((j.lines history).flatMap (· ++ ['\n'])))) ∧
          ∀ h ∈ history,
            ('\n' ∈ j.line (h.2.entry h.1) ↔ s.format = .text ∧ ∃ t ∈ h.2.texts, '\n' ∈ t) := by
  intro j opened
  obtain ⟨l, hopens⟩ := opens_open? hopen
  exact ⟨l, hopens.opens, fun history =>
    ⟨(opens_recorded rfl hopens history).holds, fun h _ => newline_mem_line j h.1 h.2⟩⟩

section Sample

/-- The settings of a journal in words that records what was rewritten. -/
def sampleSettings : JournalSettings where
  enabled := true
  file := some "/log".toList
  events := { success := true, failure := false }

/-- The journal that is opened for them. -/
def sampleJournal : Journal :=
  ⟨.text, { success := true, failure := false }, some "/log".toList⟩

/-- A chunk of the given name that is rewritten. -/
def rewrittenOnce (name : String) : Nat × Occurrence :=
  (0, .rewritten name ⟨1, 2⟩ 3)

/-- On a machine without files, the journal holds the line of a chunk with a plain name. -/
theorem node?_recorded_sample :
    ((open? sampleSettings {}).run {}).2 = some sampleJournal ∧
      ∃ l, (sampleJournal.recorded ((open? sampleSettings {}).run {}).1
          [rewrittenOnce "a"]).files.node? l =
        some (.file (Text.toBytes
          ((sampleJournal.lines [rewrittenOnce "a"]).flatMap (· ++ ['\n'])))) ∧
      '\n' ∉ sampleJournal.line ((rewrittenOnce "a").2.entry 0) := by
  have hopen : ((open? sampleSettings {}).run {}).2 = some sampleJournal := by decide +kernel
  obtain ⟨l, -, hlines⟩ := node?_recorded sampleSettings {} {} "/log".toList hopen
  obtain ⟨hfile, hbreaks⟩ := hlines [rewrittenOnce "a"]
  have hnothing : ({} : Machine).files.contentAt l = .empty := by
    rw [FileTree.contentAt]
    cases l <;> rfl
  rw [hnothing, ByteArray.empty_append] at hfile
  refine ⟨hopen, l, hfile, fun h => ?_⟩
  obtain ⟨-, t, ht, hbreak⟩ := (hbreaks _ (List.mem_singleton_self _)).mp h
  obtain rfl := List.mem_singleton.mp ht
  exact absurd hbreak (by decide)

/-- A chunk whose name breaks is one chunk, and has two lines in the journal. -/
theorem recorded_breaks_line :
    ((open? sampleSettings {}).run {}).2 = some sampleJournal ∧
      (sampleJournal.recorded ((open? sampleSettings {}).run {}).1
          [rewrittenOnce "a\nb"]).files.node? ["log".toList] =
        some (.file (Text.toBytes
          "[1970-01-01T00:00:00Z] REWRITTEN a\nb 1B -> 2B (3us)\n".toList)) ∧
      '\n' ∈ sampleJournal.line ((rewrittenOnce "a\nb").2.entry 0) := by
  decide +kernel

end Sample

end Journal

end BundleHardening
