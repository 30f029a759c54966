import BundleHardening.Proofs.Host.Files
import BundleHardening.Proofs.Host.Trace
import BundleHardening.Proofs.Settings.Keys
import BundleHardening.Settings.Layers
import Mathlib.Data.List.Basic
import Mathlib.Data.List.Induction

/-!
# Which layer decides

Layers are laid over each other once they are settings, and settings do not tell what was assigned from what
was left out.  A layer therefore counts for a key where it assigns another value than the default, and for
the keys of the journal where it turns the journal on, and then for all of them.  `Settings.load_effective`
says so of what is loaded from the files of a machine: of the layers that count for a key, the highest one
decides.
-/

set_option autoImplicit false

namespace BundleHardening

namespace Settings

/-! ## Laying one layer over another -/

namespace Key

variable {k : Key}

/-- A flag that is off unless a layer turns it on. -/
theorem or_eq_ite (lower upper : Bool) : (lower || upper) = if upper = false then lower else upper := by
  cases upper <;> simp

/-- A flag that is on unless a layer turns it off. -/
theorem and_eq_ite (lower upper : Bool) : (lower && upper) = if upper = true then lower else upper := by
  cases upper <;> simp

/-- Outside of the journal, the upper layer decides where it differs from the default. -/
theorem value_under (hk : k.ofJournal = false) (lower upper : Settings) :
    k.value (lower.under upper) = if k.value upper = k.default then k.value lower else k.value upper := by
  cases k with
  | color | defaultChunkName | maxInputBytes => rfl
  | verbose => exact or_eq_ite lower.general.verbose upper.general.verbose
  | declares => exact or_eq_ite lower.rewrite.declares upper.rewrite.declares
  | dumpSource => exact and_eq_ite lower.rewrite.dumpSource upper.rewrite.dumpSource
  | _ => cases hk

/-- The keys of the journal have their values in the settings of the journal. -/
theorem value_eq_of_journal (hk : k.ofJournal = true) {s t : Settings} (h : s.journal = t.journal) :
    k.value s = k.value t := by
  cases k with
  | journalEnabled | journalFile | journalFormat | journalSuccess | journalFailure =>
    simp only [value, h]
  | _ => cases hk

/-- Of the journal's keys, the upper layer decides all where it turns the journal on. -/
theorem value_under_journal (hk : k.ofJournal = true) (lower upper : Settings) :
    k.value (lower.under upper) = if upper.journal.enabled then k.value upper else k.value lower := by
  cases hon : upper.journal.enabled with
  | true => exact value_eq_of_journal hk (if_pos hon)
  | false => exact value_eq_of_journal hk (if_neg (Bool.eq_false_iff.mp hon))

/-- Whether a document turns the journal on. -/
def turnsOn (d : Data) : Bool :=
  journalEnabled.assigned? d == some true

/-- The value that the highest of the documents which assign the key gives it, and else the default. -/
def highest (k : Key) (stack : List Data) : k.Value :=
  (stack.reverse.findSome? k.assigned?).getD k.default

/-- The value that documents in rising order come to.  A key of the journal has the value of the highest
document that turns the journal on.  Any other key has the value of the highest document that assigns it
another value than the default.  Where there is no such document, or it does not assign the key, the key has
its default. -/
def effective (k : Key) (stack : List Data) : k.Value :=
  if k.ofJournal then ((stack.reverse.find? turnsOn).bind k.assigned?).getD k.default
  else (stack.reverse.findSome? fun d => (k.assigned? d).filter (· ≠ k.default)).getD k.default

end Key

/-- A layer more is laid over all others. -/
theorem ofLayers_append (layers : List Settings) (s : Settings) :
    ofLayers (layers ++ [s]) = (ofLayers layers).under s := by
  rw [ofLayers, List.foldl_append]
  rfl

/-- The settings of documents in rising order have the values that the documents come to. -/
theorem value_ofLayers (k : Key) (stack : List Data) (h : ∀ d ∈ stack, (ofData? d).isSome = true) :
    k.value (ofLayers (stack.filterMap ofData?)) = k.effective stack := by
  induction stack using List.reverseRecOn with
  | nil => cases k <;> rfl
  | append_singleton stack d ih =>
    obtain ⟨s, hs⟩ := Option.isSome_iff_exists.mp (h d (by simp))
    have hlower := ih fun d hd => h d (List.mem_append_left _ hd)
    have hvalue := value_of_ofData? hs
    rw [List.filterMap_append, List.filterMap_cons_some hs, List.filterMap_nil, ofLayers_append]
    cases hk : k.ofJournal with
    | true =>
      have henabled : s.journal.enabled = (Key.journalEnabled.assigned? d).getD false :=
        value_of_ofData? hs .journalEnabled
      have hon : s.journal.enabled = Key.turnsOn d := by
        rw [henabled, Key.turnsOn]
        rcases Key.journalEnabled.assigned? d with _ | _ | _ <;> rfl
      rw [Key.value_under_journal hk, hlower, hon, hvalue]
      simp only [Key.effective, hk, if_true, List.reverse_append, List.reverse_singleton,
        List.singleton_append, List.find?_cons]
      cases Key.turnsOn d <;> rfl
    | false =>
      rw [Key.value_under hk, hlower, hvalue]
      simp only [Key.effective, hk, Bool.false_eq_true, if_false, List.reverse_append,
        List.reverse_singleton, List.singleton_append, List.findSome?_cons]
      cases k.assigned? d with
      | none => simp
      | some v => by_cases hv : v = k.default <;> simp [Option.filter, hv]

end Settings

/-! ## Loading the layers -/

/-- The document that a file holds, if it is one of settings. -/
def Machine.document? (m : Machine) (p : Path) : Option Data :=
  (m.text p).toOption.bind fun t => (Toml.read? t).filter fun d => (Settings.ofData? d).isSome

/-- The file of a project's settings that is found from a directory on. -/
def Machine.projectFile? (m : Machine) (start : Path) : Option Path :=
  ((Settings.findProjectFile start).run m).2

/-- The documents of settings that a machine has, in rising order: that of the system, of the user, of the
project, and the one that is named. -/
def Machine.stack (m : Machine) (env : Environment) (named : Option Path) : List Data :=
  [some Settings.systemFile, Settings.userFile? env, m.projectFile? env.directory, named].filterMap
    fun file => file.bind m.document?

namespace Settings

variable (m : Machine)

theorem isSome_of_mem_stack {env : Environment} {named : Option Path} {d : Data}
    (h : d ∈ m.stack env named) : (ofData? d).isSome = true := by
  obtain ⟨file, -, hfile⟩ := List.mem_filterMap.mp h
  obtain ⟨p, -, hp⟩ := Option.bind_eq_some_iff.mp hfile
  obtain ⟨t, -, ht⟩ := Option.bind_eq_some_iff.mp hp
  exact (Option.filter_eq_some_iff.mp ht).2

/-- The settings that a text holds are those of its document. -/
theorem ofText?_eq (t : Text) :
    ofText? t = ((Toml.read? t).filter fun d => (ofData? d).isSome).bind ofData? := by
  rw [ofText?]
  cases Toml.read? t with
  | none => rfl
  | some d => cases h : ofData? d <;> simp [Option.filter, h]

/-- A file of settings is read by looking. -/
theorem looks_readFile (p : Path) : (readFile p).Looks := by
  refine (Program.Looks.readText p).andThen fun r => ?_
  cases r with
  | error e => trivial
  | ok t =>
    dsimp only
    cases ofText? t <;> trivial

theorem looks_readIfAny (file : Option Path) : (readIfAny file).Looks := by
  cases file with
  | none => trivial
  | some p => exact (looks_readFile p).andThen fun r => Program.Looks.pure _

theorem looks_findProjectFileIn (directories : List Path) : (findProjectFileIn directories).Looks := by
  induction directories with
  | nil => trivial
  | cons directory above ih =>
    intro found
    cases found with
    | true => trivial
    | false =>
      intro top
      cases top with
      | true => trivial
      | false => exact ih

/-- Settings are loaded by looking. -/
theorem looks_load (env : Environment) (named : Option Path) : (load env named).Looks := by
  have hlayers : (readLayers env).Looks :=
    (looks_readIfAny _).andThen fun _ => (looks_readIfAny _).andThen fun _ =>
      (looks_findProjectFileIn _).andThen fun _ => (looks_readIfAny _).andThen fun _ => Program.Looks.pure _
  refine hlayers.andThen fun layers => ?_
  cases named with
  | none => trivial
  | some p =>
    refine (looks_readFile p).andThen fun r => ?_
    cases r <;> trivial

/-- A file of settings is read as the settings of its document. -/
theorem toOption_run_readFile (p : Path) :
    ((readFile p).run m).2.toOption = (m.document? p).bind ofData? := by
  rw [readFile, Program.bind_eq, Program.run_andThen, Program.run_readText, Machine.document?]
  cases m.text p with
  | error e => rfl
  | ok t =>
    dsimp only [Except.toOption, Option.bind_some]
    rw [← ofText?_eq]
    cases ofText? t <;> rfl

/-- A file that is looked for gives the settings of its document, if there are any. -/
theorem run_readIfAny (file : Option Path) :
    (readIfAny file).run m = (m, (file.bind m.document?).bind ofData?) := by
  refine Prod.ext ((looks_readIfAny file).machine_run m) ?_
  cases file with
  | none => rfl
  | some p =>
    rw [readIfAny, Program.bind_eq, Program.run_andThen]
    exact toOption_run_readFile m p

/-- The document that is named stands above those that are looked for. -/
theorem stack_eq (env : Environment) (named : Option Path) :
    m.stack env named = m.stack env none ++ (named.bind m.document?).toList := by
  simp [Machine.stack, List.filterMap_eq_flatMap_toList]

/-- The layers that are looked for are the settings of the documents. -/
theorem run_readLayers (env : Environment) :
    (readLayers env).run m = (m, (m.stack env none).filterMap ofData?) := by
  have hproject : ((findProjectFile env.directory).run m).1 = m :=
    (looks_findProjectFileIn _).machine_run m
  have hlayers : (m.stack env none).filterMap ofData? =
      (((some systemFile).bind m.document?).bind ofData?).toList ++
        (((userFile? env).bind m.document?).bind ofData?).toList ++
        (((m.projectFile? env.directory).bind m.document?).bind ofData?).toList := by
    rw [Machine.stack, List.filterMap_filterMap, List.filterMap_eq_flatMap_toList]
    simp only [List.flatMap_cons, List.flatMap_nil, Option.bind_none, Option.toList_none, List.append_nil,
      List.append_assoc]
  simp only [readLayers, Program.bind_eq, Program.run_andThen, run_readIfAny, hproject, hlayers]
  rfl

/-- What is loaded are the settings of the documents, with the variables of the environment over them. -/
theorem run_load (env : Environment) (named : Option Path)
    (hnamed : ∀ p ∈ named, (m.document? p).isSome = true) :
    (load env named).run m =
      (m, .ok ((ofLayers ((m.stack env named).filterMap ofData?)).withVariables env)) := by
  rw [load, Program.bind_eq, Program.run_andThen, run_readLayers]
  cases named with
  | none => rfl
  | some p =>
    obtain ⟨d, hd⟩ := Option.isSome_iff_exists.mp (hnamed p rfl)
    have hsettings := toOption_run_readFile m p
    have hmem : d ∈ m.stack env (some p) := by
      rw [stack_eq, Option.bind_some, hd]
      simp
    obtain ⟨s, hs⟩ := Option.isSome_iff_exists.mp (isSome_of_mem_stack m hmem)
    have hread : (readFile p).run m = (m, .ok s) := by
      refine Prod.ext ((looks_readFile p).machine_run m) ?_
      rw [hd, Option.bind_some, hs] at hsettings
      cases hresult : ((readFile p).run m).2 with
      | error e => rw [hresult] at hsettings; cases hsettings
      | ok s' => rw [hresult] at hsettings; cases hsettings; rfl
    dsimp only
    rw [Program.bind_eq, Program.run_andThen, hread, stack_eq m env (some p), Option.bind_some, hd,
      Option.toList_some,
      List.filterMap_append, List.filterMap_cons_some hs, List.filterMap_nil]
    rfl

/-- What is loaded, before the environment has its say, has under every key the value that the documents of
the machine come to. -/
theorem load_effective (env : Environment) (named : Option Path)
    (hnamed : ∀ p ∈ named, (m.document? p).isSome = true) :
    ∃ s : Settings, (load env named).run m = (m, .ok (s.withVariables env)) ∧
      ∀ k : Key, k.value s = k.effective (m.stack env named) :=
  ⟨_, run_load m env named hnamed, fun k => value_ofLayers k _ fun _ hd => isSome_of_mem_stack m hd⟩

section Sample

/-- A system with settings, a project with others, and a file that is named. -/
def layeredMachine : Machine where
  files :=
    { entries :=
      [(["etc".toList], .directory),
       (["bpg".toList, "etc".toList], .directory),
       (["config.toml".toList, "bpg".toList, "etc".toList],
        .file (Text.toBytes "general.verbose=true\n[logging]\nenabled=true\nfile=\"a\"".toList)),
       ([".bpg.toml".toList],
        .file (Text.toBytes "general.verbose=false\nlogging.format=\"json\"".toList)),
       (["x".toList], .file (Text.toBytes "general.color=\"red\"\nlogging.enabled=true".toList))] }

/-- The file that is named. -/
def layeredFile : Path :=
  "/x".toList

/-- The file that is named decides about colours. -/
theorem load_effective_layered :
    (∀ p ∈ some layeredFile, (layeredMachine.document? p).isSome = true) ∧
      ∃ s : Settings, (load {} (some layeredFile)).run layeredMachine =
          (layeredMachine, .ok (s.withVariables {})) ∧
        s.general.color = "red" := by
  have hnamed : ∀ p ∈ some layeredFile, (layeredMachine.document? p).isSome = true := by
    rintro p ⟨⟩
    decide +kernel
  obtain ⟨s, hrun, hvalue⟩ := load_effective layeredMachine {} (some layeredFile) hnamed
  have hcolor : s.general.color = Key.color.effective (layeredMachine.stack {} (some layeredFile)) :=
    hvalue .color
  refine ⟨hnamed, s, hrun, hcolor.trans ?_⟩
  decide +kernel

/-- The values that the highest documents assign to keys of the journal are not those that are loaded: a format
stands beside no wish to turn the journal on, and a file below another such wish.  Both differ from their
defaults. -/
theorem load_passes_over_highest :
    (Key.journalFormat.highest (layeredMachine.stack {} (some layeredFile)) = .json ∧
      Key.journalFile.highest (layeredMachine.stack {} (some layeredFile)) =
        some ['a']) ∧
    ((load {} (some layeredFile)).run layeredMachine).2.toOption.map
        (fun s => (s.journal.format, s.journal.file)) =
      some (.text, none) := by
  decide +kernel

end Sample

end Settings

end BundleHardening
