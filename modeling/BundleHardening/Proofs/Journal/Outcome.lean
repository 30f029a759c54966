import BundleHardening.Proofs.Host.Trace
import BundleHardening.Proofs.Journal.History

/-!
# Which outcomes a journal is given

A line tells the outcome of its chunk (`outcome_eq_of_line_eq`), so that it can be read off what a run writes
behind the file of the journal whether a chunk was recorded as rewritten (`adds_record_iff`).
-/

set_option autoImplicit false

namespace BundleHardening

/-- What became of the chunk. -/
def Occurrence.outcome : Occurrence → Outcome
  | rewritten _ _ _ => .rewritten
  | refused _ _ _ => .refused

namespace Occurrence

variable {now : Nat} {o : Occurrence}

theorem outcome_entry (now : Nat) (o : Occurrence) : (o.entry now).outcome = o.outcome := by
  cases o <;> rfl

theorem timestamp_entry (now : Nat) (o : Occurrence) : (o.entry now).timestamp = Timestamp.ofSeconds now := by
  cases o <;> rfl

/-- No bracket and no comma is in the time of an entry. -/
theorem not_mem_timestamp {c : Char} (hc : c = ']' ∨ c = ',') : c ∉ (o.entry now).timestamp := by
  intro h
  rw [timestamp_entry] at h
  obtain rfl | rfl := hc <;>
    exact absurd (Timestamp.isDigit_of_mem_ofSeconds h) (by decide)

end Occurrence

namespace Journal

variable {j : Journal} {m : Machine} {p : Path} {l : Location} {old : ByteArray} {s : JournalSettings}
  {env : Environment} {o o' : Occurrence} {now now' : Nat}

/-- The line of an entry tells what became of its chunk. -/
theorem outcome_eq_of_line_eq (h : j.line (o.entry now) = j.line (o'.entry now')) :
    o.outcome = o'.outcome := by
  rw [line, line] at h
  cases hformat : j.format with
  | text =>
    rw [hformat] at h
    obtain ⟨rest, hrest⟩ := (o.entry now).dropWhile_textLine (Occurrence.not_mem_timestamp (.inl rfl))
    obtain ⟨rest', hrest'⟩ := (o'.entry now').dropWhile_textLine (Occurrence.not_mem_timestamp (.inl rfl))
    have hlabels := hrest.symm.trans ((congrArg (List.dropWhile (· != ']')) h).trans hrest')
    rw [Occurrence.outcome_entry, Occurrence.outcome_entry] at hlabels
    cases o <;> cases o' <;> first | rfl | simp [Occurrence.outcome, Outcome.label] at hlabels
  | json =>
    rw [hformat] at h
    obtain ⟨rest, hrest⟩ := (o.entry now).dropWhile_jsonLine (Occurrence.not_mem_timestamp (.inr rfl))
    obtain ⟨rest', hrest'⟩ := (o'.entry now').dropWhile_jsonLine (Occurrence.not_mem_timestamp (.inr rfl))
    have hnames := hrest.symm.trans ((congrArg (List.dropWhile (· != ',')) h).trans hrest')
    rw [Occurrence.outcome_entry, Occurrence.outcome_entry] at hnames
    cases o <;> cases o' <;>
      first | rfl | simp [Occurrence.outcome, Outcome.name, Json.member, Json.quote, Json.escapeChar] at hnames

/-- Whether the line of an entry with an outcome is among what was written behind files. -/
def Adds (j : Journal) (outcome : Outcome) (added : List (Path × ByteArray)) : Prop :=
  ∃ p ∈ j.file, ∃ (now : Nat) (o : Occurrence), o.outcome = outcome ∧
    (p, Text.toBytes (j.line (o.entry now) ++ ['\n'])) ∈ added

theorem adds_append {outcome : Outcome} {added more : List (Path × ByteArray)} :
    j.Adds outcome (added ++ more) ↔ j.Adds outcome added ∨ j.Adds outcome more := by
  simp only [Adds, List.mem_append, and_or_left, exists_or]

/-! ## Opening -/

/-- Whether nothing but empty texts was written behind files. -/
def Blank (added : List (Path × ByteArray)) : Prop :=
  ∀ a ∈ added, a.2 = .empty

theorem blank_nil : Blank [] :=
  fun _ h => absurd h List.not_mem_nil

/-- A line is not empty. -/
theorem Blank.not_adds {outcome : Outcome} {added : List (Path × ByteArray)} (h : Blank added) :
    ¬ j.Adds outcome added := by
  rintro ⟨p, -, now, o, -, hmem⟩
  have hempty : Text.toBytes (j.line (o.entry now) ++ ['\n']) = Text.toBytes [] :=
    (h _ hmem).trans Text.toBytes_nil.symm
  simp [Text.toBytes_inj] at hempty

theorem blank_appendFile_empty (p : Path) (m : Machine) :
    Blank ((Program.appendFile p .empty .done).appended m) := by
  intro a ha
  simp only [Program.appended, List.append_nil, Option.mem_toList, Option.map_eq_some_iff] at ha
  obtain ⟨-, -, rfl⟩ := ha
  rfl

theorem blank_openFile (p : Path) (m : Machine) : Blank ((openFile p).appended m) := by
  rw [openFile]
  cases p.parent? with
  | none => exact blank_appendFile_empty p m
  | some directory =>
    dsimp only
    rw [Program.bind_eq, Program.appended_andThen]
    dsimp only [Program.run, Program.appended]
    rw [List.nil_append]
    cases (m.files.makeDirectories m.directory directory).2 with
    | error e => exact blank_nil
    | ok made => exact blank_appendFile_empty p _

/-- Opening a journal writes no line. -/
theorem blank_open? (s : JournalSettings) (env : Environment) (m : Machine) :
    Blank ((open? s env).appended m) := by
  rw [open?]
  split
  · split
    · exact blank_nil
    · next given _ =>
      rw [Program.bind_eq, Program.appended_andThen]
      intro a ha
      obtain ha | ha := List.mem_append.mp ha
      · exact blank_openFile _ m a ha
      · cases ((openFile (env.expandHome given)).run m).2 <;> exact blank_nil a ha
  · exact blank_nil

/-! ## Recording -/

/-- The line of an entry is written behind the file of the journal. -/
theorem appended_add (hfile : j.file = some p) (h : m.Opens p l old) (e : Entry) :
    (j.add e).appended m = [(p, Text.toBytes (j.line e ++ ['\n']))] := by
  rw [add, hfile]
  dsimp only
  rw [Program.appended, FileTree.append_of_openFile h.opens]
  rfl

/-- What a journal is told becomes a line with the outcome of the chunk, if the journal records it. -/
theorem adds_record_iff (hfile : j.file = some p) (h : m.Opens p l old) (o : Occurrence)
    (outcome : Outcome) :
    j.Adds outcome ((j.record o).appended m) ↔ o.passes j.events = true ∧ o.outcome = outcome := by
  have hrecord : (j.record o).appended m =
      if o.passes j.events then [(p, Text.toBytes (j.line (o.entry m.seconds) ++ ['\n']))] else [] := by
    rw [record_eq]
    split
    · exact appended_add hfile h _
    · rfl
  rw [hrecord]
  split
  · next hpasses =>
    constructor
    · rintro ⟨p', -, now, o', rfl, hmem⟩
      obtain ⟨-, hbytes⟩ := Prod.mk.inj (List.mem_singleton.mp hmem)
      exact ⟨hpasses, (outcome_eq_of_line_eq (List.append_cancel_right (Text.toBytes_inj.mp hbytes))).symm⟩
    · rintro ⟨-, rfl⟩
      exact ⟨p, hfile, m.seconds, o, rfl, List.mem_singleton_self _⟩
  · next hpasses =>
    refine iff_of_false ?_ fun h => hpasses h.1
    rintro ⟨p', -, now, o', -, ⟨⟩⟩

end Journal

end BundleHardening
