import BundleHardening.CommandLine.Run
import BundleHardening.Proofs.Host.Frame
import BundleHardening.Proofs.Journal
import BundleHardening.Proofs.Journal.Outcome
import BundleHardening.Proofs.Render
import BundleHardening.Proofs.Settings.Layers

/-!
# The journal and the delivery

A rewrite adds its entry once the text is hardened, and delivers the text after that.  The journal therefore
says whether a file was hardened, and the exit code whether the hardened text has arrived where it was asked
for (`run_rewrite_iff`).  A file may be impossible to open, or be opened and break off what is written to it,
as the output may.  The file of the journal, once it is open, takes its entry, and the diagnostics take the
line on a file that was written.
-/

set_option autoImplicit false

namespace BundleHardening

open Program (Looks Silent)

/-! ## Telling a journal -/

namespace Journal

/-- Tells the journal of a chunk, if there is one. -/
def tell (journal : Option Journal) (o : Occurrence) : Program Unit :=
  match journal with
  | some j => j.record o
  | none => pure ()

/-- Telling a journal of a chunk prints nothing. -/
theorem silent_tell (journal : Option Journal) (o : Occurrence) : (tell journal o).Silent := by
  cases journal with
  | none => exact Silent.pure ()
  | some j =>
    cases o with
    | rewritten chunk report us => exact j.silent_addRewritten chunk report us
    | refused chunk inputBytes e => exact j.silent_addRefused chunk inputBytes e

end Journal

namespace CommandLine

namespace RewriteRequest

variable {r : RewriteRequest} {s : Setting} {m before after : Machine} {j : Journal} {p : Path} {l : Location}
  {old : ByteArray} {source text : Text} {e : RewriteError}

/-- Whether a text was delivered: it was printed behind what was printed before, or the file that was asked
for holds it. -/
def Delivered (r : RewriteRequest) (before after : Machine) (text : Text) : Prop :=
  match r.target? with
  | none => after.output = before.output ++ text
  | some p => ∃ l, after.Opens p l (Text.toBytes text)

/-- Whether a text cannot be delivered: the output breaks it off, or the file that was asked for cannot be
opened or breaks it off. -/
def Blocked (r : RewriteRequest) (m : Machine) (text : Text) : Prop :=
  match r.target? with
  | none => ∃ fault, m.outputFault? text = some fault
  | some p =>
    (∃ e, m.files.openFile m.directory p = .error e) ∨
      ∃ l old fault, m.files.openFile m.directory p = .ok (l, old) ∧
        m.fileFault? l (Text.toBytes text) = some fault

/-- Whether an ending is a success exactly when a text was delivered, and exactly when nothing blocks it. -/
structure Tells (r : RewriteRequest) (before after : Machine) (text : Text) (ending : Except Text Unit) :
    Prop where
  delivered : ending = .ok () ↔ r.Delivered before after text
  blocked : ending = .ok () ↔ ¬ r.Blocked after text

namespace Tells

variable {ending : Except Text Unit} {message : Text}

theorem of_ok (hdelivered : r.Delivered before after text) (hblocked : ¬ r.Blocked after text) :
    r.Tells before after text (.ok ()) :=
  ⟨iff_of_true rfl hdelivered, iff_of_true rfl hblocked⟩

theorem of_error (hdelivered : ¬ r.Delivered before after text) (hblocked : r.Blocked after text) :
    r.Tells before after text (.error message) :=
  ⟨iff_of_false nofun hdelivered, iff_of_false nofun (not_not_intro hblocked)⟩

/-- What is printed as diagnostics is neither a delivery nor in its way. -/
theorem withDiagnostics (h : r.Tells before after text ending) (diagnostics : Text) :
    r.Tells before { after with diagnostics := diagnostics } text ending := by
  obtain ⟨hdelivered, hblocked⟩ := h
  rw [Delivered] at hdelivered
  rw [Blocked] at hblocked
  refine ⟨hdelivered.trans ?_, hblocked⟩
  rw [Delivered]
  cases r.target? with
  | none => exact Iff.rfl
  | some p => exact exists_congr fun l => ⟨fun h => ⟨h.opens, h.holds⟩, fun h => ⟨h.opens, h.holds⟩⟩

end Tells

/-! ## Delivering -/

/-- A text that is to be printed is delivered unless the output breaks it off. -/
theorem tells_deliver_output (htarget : r.target? = none) (s : Setting) (text : Text) (report : RenderReport)
    (us : Nat) (m : Machine) :
    r.Tells m ((r.deliver s text report us).run m).1 text ((r.deliver s text report us).run m).2 := by
  rw [deliver, htarget]
  dsimp only [Program.run]
  cases hfault : m.outputFault? text with
  | none =>
    rw [Machine.outputWritten, hfault]
    refine .of_ok ?_ ?_
    · rw [Delivered, htarget]
      rfl
    · rw [Blocked, htarget]
      rintro ⟨fault, hblocks⟩
      cases hfault.symm.trans hblocks
  | some fault =>
    rw [Machine.outputWritten, hfault]
    refine .of_error ?_ ?_
    · rw [Delivered, htarget]
      exact fun h => fault.take_ne (List.append_cancel_left h)
    · rw [Blocked, htarget]
      exact ⟨fault, hfault⟩

/-- A text that is to be written to a file is delivered unless the file cannot be opened or breaks it off. -/
theorem tells_deliver_file (htarget : r.target? = some p) (s : Setting) (text : Text) (report : RenderReport)
    (us : Nat) (m : Machine) :
    r.Tells m ((r.deliver s text report us).run m).1 text ((r.deliver s text report us).run m).2 := by
  rw [deliver, htarget]
  dsimp only
  rw [Program.bind_eq, Program.run_andThen, Program.writeText]
  dsimp only [Program.run]
  cases hopen : m.files.openFile m.directory p with
  | error e =>
    rw [Machine.written_of_error hopen]
    refine .of_error ?_ ?_
    · rw [Delivered, htarget]
      rintro ⟨l, hopens⟩
      cases hopen.symm.trans hopens.opens
    · rw [Blocked, htarget]
      exact .inl ⟨e, hopen⟩
  | ok opened =>
    obtain ⟨l, old⟩ := opened
    cases hfault : m.fileFault? l (Text.toBytes text) with
    | none =>
      have hopens := Machine.opens_withFile hopen (Text.toBytes text)
      rw [Machine.written_of_ok hopen hfault]
      refine Tells.withDiagnostics (.of_ok ?_ ?_) _
      · rw [Delivered, htarget]
        exact ⟨l, hopens⟩
      · rw [Blocked, htarget]
        rintro (⟨e, he⟩ | ⟨l', old', fault, hopen', hblocks⟩)
        · cases hopens.opens.symm.trans he
        · cases hopens.opens.symm.trans hopen'
          cases hfault.symm.trans hblocks
    | some fault =>
      have hopens := Machine.opens_withFile hopen ((Text.toBytes text).extract 0 fault.taken)
      rw [Machine.written_of_fault hopen hfault]
      refine .of_error ?_ ?_
      · rw [Delivered, htarget]
        rintro ⟨l', hopens'⟩
        have hopened := Except.ok.inj (hopens.opens.symm.trans hopens'.opens)
        exact fault.extract_ne (Prod.mk.inj hopened).2
      · rw [Blocked, htarget]
        exact .inr ⟨l, _, fault, hopens.opens, hfault⟩

/-- The ending of a delivery tells whether the text was delivered. -/
theorem tells_deliver (r : RewriteRequest) (s : Setting) (text : Text) (report : RenderReport) (us : Nat)
    (m : Machine) :
    r.Tells m ((r.deliver s text report us).run m).1 text ((r.deliver s text report us).run m).2 := by
  cases htarget : r.target? with
  | none => exact tells_deliver_output htarget s text report us m
  | some p => exact tells_deliver_file htarget s text report us m

/-- Delivering writes nothing behind files. -/
theorem appended_deliver (r : RewriteRequest) (s : Setting) (text : Text) (report : RenderReport) (us : Nat)
    (m : Machine) : (r.deliver s text report us).appended m = [] := by
  rw [deliver]
  cases r.target? with
  | none =>
    dsimp only [Program.appended]
    cases (m.outputWritten text).2 <;> rfl
  | some p =>
    dsimp only
    rw [Program.bind_eq, Program.appended_andThen]
    cases ((Program.writeText p text).run m).2 <;> rfl

/-! ## Hardening -/

/-- What the hardener makes of a source. -/
def result (r : RewriteRequest) (s : Setting) (source : Text) : Except RewriteError Text :=
  ((r.hardener s).render source (s.chunk r.chunkName)).result

/-- What the journal is told of a source. -/
def told (r : RewriteRequest) (s : Setting) (source : Text) (us : Nat) : Occurrence :=
  let label := (s.chunk r.chunkName).context.displayName
  match r.result s source with
  | .ok text => .rewritten label (RenderReport.of source text) us
  | .error e => .refused label (Text.byteSize source) e

/-- What follows once the journal was told. -/
def followUp (r : RewriteRequest) (s : Setting) (source : Text) (us : Nat) : Program (Except Text Unit) :=
  match r.result s source with
  | .ok text => r.deliver s text (RenderReport.of source text) us
  | .error e => pure (.error e.message.toList)

/-- Once the journal is open, it is told what became of the source, and the rest follows.  The clock of a
machine does not move in a run. -/
theorem harden_eq (r : RewriteRequest) (source : Text)
    (hjournal : ((Journal.open? s.settings.journal s.environment).run m).2 = some j) :
    let opened := ((Journal.open? s.settings.journal s.environment).run m).1
    let behind := (j.record (r.told s source 0)).andThen fun _ => r.followUp s source 0
    (r.harden s source).run m = behind.run opened ∧
      (r.harden s source).appended m =
        (Journal.open? s.settings.journal s.environment).appended m ++ behind.appended opened := by
  rw [harden, Program.bind_eq, Program.run_andThen, Program.appended_andThen, hjournal]
  intro opened
  rw [← Nat.sub_self opened.microseconds]
  simp only [told, followUp, result]
  cases hresult : ((r.hardener s).render source (s.chunk r.chunkName)).result with
  | ok text => exact ⟨rfl, rfl⟩
  | error e => exact ⟨rfl, rfl⟩

/-- With a source that is refused, the journal is told of it, and its error is the end. -/
theorem harden_of_error (hresult : r.result s source = .error e) :
    r.harden s source = (Journal.open? s.settings.journal s.environment).andThen fun journal =>
      .microseconds fun _ => (Journal.tell journal (r.told s source 0)).andThen fun _ =>
        pure (.error e.message.toList) := by
  have hrender : ((r.hardener s).render source (s.chunk r.chunkName)).result = .error e := hresult
  rw [harden, Program.bind_eq, hrender, told, hresult]
  congr 1
  funext journal
  cases journal <;> rfl

/-- With a source that is hardened, the journal is told of it, and the text is delivered. -/
theorem harden_of_ok (hresult : r.result s source = .ok text) :
    r.harden s source = (Journal.open? s.settings.journal s.environment).andThen fun journal =>
      .microseconds fun start => .microseconds fun stop =>
        (Journal.tell journal (r.told s source (stop - start))).andThen fun _ =>
          r.deliver s text (RenderReport.of source text) (stop - start) := by
  have hrender : ((r.hardener s).render source (s.chunk r.chunkName)).result = .ok text := hresult
  rw [harden, Program.bind_eq, hrender]
  simp only [told, hresult]
  congr 1
  funext journal
  cases journal <;> rfl

/-- A hardened text is delivered from a machine on which nothing was printed yet. -/
theorem exists_run_deliver (hresult : r.result s source = .ok text) (m : Machine) :
    ∃ told report us, told.output = m.output ∧
      (r.harden s source).run m = (r.deliver s text report us).run told := by
  rw [harden_of_ok hresult, Program.run_andThen]
  refine ⟨_, _, _, ?_, Program.run_andThen _ _ _⟩
  have hopened := (Journal.silent_open? s.settings.journal s.environment).prints_run m .output
  exact ((Journal.silent_tell _ _).prints_run _ .output).trans hopened

/-- The ending of a rewrite tells whether the hardened text was delivered. -/
theorem tells_harden (hresult : r.result s source = .ok text) (m : Machine) :
    r.Tells m ((r.harden s source).run m).1 text ((r.harden s source).run m).2 := by
  obtain ⟨told, report, us, houtput, hrun⟩ := exists_run_deliver hresult m
  obtain ⟨hdelivered, hblocked⟩ := r.tells_deliver s text report us told
  rw [hrun]
  refine ⟨?_, hblocked⟩
  rwa [Delivered, houtput] at hdelivered

/-- A source that is refused ends in the message of the refusal. -/
theorem run_harden_of_error (hresult : r.result s source = .error e) (m : Machine) :
    ((r.harden s source).run m).2 = .error e.message.toList := by
  rw [harden_of_error hresult, Program.run_andThen]
  exact congrArg Prod.snd (Program.run_andThen _ _ _)

/-- A journal that records what was rewritten is given such an entry when the source is hardened. -/
theorem adds_harden_iff (hjournal : ((Journal.open? s.settings.journal s.environment).run m).2 = some j)
    (hfile : j.file = some p)
    (hopens : ((Journal.open? s.settings.journal s.environment).run m).1.Opens p l old)
    (hsuccess : j.events.success = true) :
    j.Adds .rewritten ((r.harden s source).appended m) ↔ ∃ text, r.result s source = .ok text := by
  obtain ⟨-, hadded⟩ := r.harden_eq source hjournal
  have hopening := Journal.blank_open? s.settings.journal s.environment m
  have hfollowing : (r.followUp s source 0).appended
      ((j.record (r.told s source 0)).run ((Journal.open? s.settings.journal s.environment).run m).1).1 =
        [] := by
    rw [followUp]
    cases r.result s source with
    | ok text => exact appended_deliver _ _ _ _ _ _
    | error e => rfl
  rw [hadded, Journal.adds_append, or_iff_right hopening.not_adds, Program.appended_andThen, hfollowing,
    List.append_nil, Journal.adds_record_iff hfile hopens, told]
  cases r.result s source with
  | ok text => simp [Occurrence.passes, Occurrence.outcome, hsuccess]
  | error e => simp [Occurrence.outcome]

end RewriteRequest

/-! ## The program -/

/-- The setting that a command finds once settings are loaded. -/
def Setting.of (env : Environment) (settings : Settings) : Setting :=
  ⟨env, settings, coloursOn settings.general.color env.terminal⟩

section Program

variable {env : Environment} {arguments : List Text} {named : Option Path} {r : RewriteRequest}
  {settings : Settings} {m : Machine} {source text : Text}

/-- The exit code that a command's ending comes to. -/
def exitCode : Except Text Unit → Nat
  | .ok () => 0
  | .error _ => 1

/-- The exit code 0 tells of a command that succeeded. -/
theorem exitCode_eq_zero_iff {ending : Except Text Unit} : exitCode ending = 0 ↔ ending = .ok () := by
  cases ending with
  | ok u => exact iff_of_true rfl rfl
  | error message => exact iff_of_false Nat.one_ne_zero nofun

/-- Arguments that ask for a rewrite do not ask for the version. -/
theorem run_eq_invoke {i : Invocation} (hargs : read arguments = .run i) : run env arguments = invoke env i := by
  have hlong : read ["--version".toList] = .version := rfl
  have hshort : read ["-V".toList] = .version := rfl
  rw [run, if_neg, hargs]
  rintro (rfl | rfl)
  · rw [hlong] at hargs
    cases hargs
  · rw [hshort] at hargs
    cases hargs

/-- A rewrite of a file that can be read hardens its text. -/
theorem RewriteRequest.run_run {s : Setting} (hread : m.text r.file = .ok source) :
    (r.run s).run m = (r.harden s source).run m ∧ (r.run s).appended m = (r.harden s source).appended m := by
  have hlooks := (Looks.readText r.file).appended_eq_nil m
  rw [RewriteRequest.run, Program.bind_eq, Program.run_andThen, Program.appended_andThen, hlooks,
    Program.run_readText, hread]
  exact ⟨rfl, rfl⟩

/-- A command that ends in a message prints it, and the exit code tells so. -/
theorem run_execute (s : Setting) (r : RewriteRequest) (m : Machine) :
    (∃ diagnostics, (execute s (.rewrite r)).run m =
      ({ ((r.run s).run m).1 with diagnostics := diagnostics }, exitCode ((r.run s).run m).2)) ∧
    (execute s (.rewrite r)).appended m = (r.run s).appended m := by
  have hexecute : execute s (.rewrite r) = (r.run s).andThen fun ending =>
      match ending with
      | .ok () => pure 0
      | .error message => (Program.complain
          (Terminal.paint s.colours (Terminal.Style.of .red).bold "Error:".toList ++ [' '] ++ message)).andThen
            fun _ => pure 1 := rfl
  rw [hexecute, Program.run_andThen, Program.appended_andThen]
  cases ((r.run s).run m).2 with
  | ok u => exact ⟨⟨_, rfl⟩, List.append_nil _⟩
  | error message => exact ⟨⟨_, rfl⟩, List.append_nil _⟩

/-- A program that is asked to rewrite a file does so once the settings are loaded. -/
theorem run_request (env : Environment) (hargs : read arguments = .run ⟨named, .rewrite r⟩)
    (hload : ((Settings.load env named).run m).2 = .ok settings) :
    (∃ diagnostics, (run env arguments).run m =
      ({ ((r.run (.of env settings)).run m).1 with diagnostics := diagnostics },
        exitCode ((r.run (.of env settings)).run m).2)) ∧
    (run env arguments).appended m = (r.run (.of env settings)).appended m := by
  have hlooks := Settings.looks_load env named
  rw [run_eq_invoke hargs, invoke, Program.bind_eq, Program.run_andThen, Program.appended_andThen,
    hlooks.machine_run, hlooks.appended_eq_nil, hload, List.nil_append]
  exact run_execute (.of env settings) r m

/-- A program that is asked to rewrite a file that can be read hardens its text once the settings are
loaded. -/
theorem run_rewrite (env : Environment) (hargs : read arguments = .run ⟨named, .rewrite r⟩)
    (hload : ((Settings.load env named).run m).2 = .ok settings) (hread : m.text r.file = .ok source) :
    (∃ diagnostics, (run env arguments).run m =
      ({ ((r.harden (.of env settings) source).run m).1 with diagnostics := diagnostics },
        exitCode ((r.harden (.of env settings) source).run m).2)) ∧
    (run env arguments).appended m = (r.harden (.of env settings) source).appended m := by
  obtain ⟨hrun, hadded⟩ := RewriteRequest.run_run (s := .of env settings) hread
  rw [← hrun, ← hadded]
  exact run_request env hargs hload

end Program

open RewriteRequest in
/-- A program that is asked to rewrite a file, which can be read, with a journal that records what was
rewritten, adds such an entry when the text is hardened.  Its exit code is 0 when the text is hardened and
then delivered.  An entry therefore comes with another exit code when the file that the hardened text was to
be written to could not be opened, or broke it off, or the output did. -/
theorem run_rewrite_iff (env : Environment) (arguments : List Text) (m : Machine) (named : Option Path)
    (r : RewriteRequest) (settings : Settings) (source : Text) (p : Path)
    (hargs : read arguments = .run ⟨named, .rewrite r⟩)
    (hload : ((Settings.load env named).run m).2 = .ok settings)
    (hread : m.text r.file = .ok source)
    (hopen : ((Journal.open? settings.journal env).run m).2 =
      some ⟨settings.journal.format, settings.journal.events, some p⟩)
    (hsuccess : settings.journal.events.success = true) :
    let j : Journal := ⟨settings.journal.format, settings.journal.events, some p⟩
    let after := (run env arguments).run m
    let added := (run env arguments).appended m
    let result := r.result (.of env settings) source
    (j.Adds .rewritten added ↔ ∃ text, result = .ok text) ∧
      (after.2 = 0 ↔ ∃ text, result = .ok text ∧ r.Delivered m after.1 text) ∧
      (j.Adds .rewritten added ∧ after.2 ≠ 0 ↔ ∃ text, result = .ok text ∧ r.Blocked after.1 text) := by
  intro j after added result
  obtain ⟨l, hopens⟩ := Journal.opens_open? hopen
  obtain ⟨⟨diagnostics, hafter⟩, hadded⟩ := run_rewrite env hargs hload hread
  have hadds : j.Adds .rewritten added ↔ ∃ text, result = .ok text := by
    rw [show added = _ from hadded]
    exact adds_harden_iff (s := .of env settings) hopen rfl hopens hsuccess
  have hexit : after.2 = 0 ↔ ((r.harden (.of env settings) source).run m).2 = .ok () := by
    rw [show after = _ from hafter]
    exact exitCode_eq_zero_iff
  cases hresult : result with
  | error e =>
    have hne : after.2 ≠ 0 := by
      rw [Ne, hexit, run_harden_of_error (s := .of env settings) hresult]
      exact nofun
    rw [hresult] at hadds
    exact ⟨hadds, iff_of_false hne nofun, iff_of_false (fun h => nomatch hadds.mp h.1) nofun⟩
  | ok text =>
    have htells : r.Tells m after.1 text ((r.harden (.of env settings) source).run m).2 := by
      rw [show after = _ from hafter]
      exact (tells_harden (s := .of env settings) hresult m).withDiagnostics diagnostics
    have hadded : j.Adds .rewritten added := hadds.mpr ⟨text, hresult⟩
    refine ⟨iff_of_true hadded ⟨text, rfl⟩, ?_, ?_⟩
    · simpa using hexit.trans htells.delivered
    · simpa [hadded] using (not_congr (hexit.trans htells.blocked)).trans not_not

section Sample

/-- A machine with a small chunk, and settings that ask for a journal of what is rewritten. -/
def auditedMachine : Machine where
  files :=
    { entries :=
      [(["etc".toList], .directory),
       (["bpg".toList, "etc".toList], .directory),
       (["config.toml".toList, "bpg".toList, "etc".toList],
        .file (Text.toBytes "[logging]\nenabled=true\nfile=\"/log\"\nevents.success=true".toList)),
       (["in".toList], .file (Text.toBytes MainChunk.sample))] }

/-- The settings of the machine. -/
def auditedSettings : Settings where
  journal :=
    { enabled := true, file := some "/log".toList, events := { success := true } }

/-- The journal of the machine. -/
def auditedJournal : Journal :=
  ⟨.text, { success := true }, some "/log".toList⟩

/-- A rewrite of the small chunk. -/
def auditedRequest (destination : Destination) : RewriteRequest where
  file := "/in".toList
  destination := destination

theorem run_load_audited : ((Settings.load {} none).run auditedMachine).2 = .ok auditedSettings := by
  decide +kernel

theorem text_audited : auditedMachine.text "/in".toList = .ok MainChunk.sample := by
  decide +kernel

theorem run_open?_audited :
    ((Journal.open? auditedSettings.journal {}).run auditedMachine).2 = some auditedJournal := by
  decide +kernel

theorem result_audited (destination : Destination) :
    (auditedRequest destination).result (.of {} auditedSettings) MainChunk.sample =
      .ok MainChunk.hardenedSample := by
  have happly := MainChunk.result_apply_sample
  rw [MainChunk.result_apply_eq_decision] at happly
  rw [RewriteRequest.result, Hardener.result_render _ _ (by decide)]
  cases hdecision : MainChunk.decision MainChunk.sample with
  | error e => rw [hdecision] at happly; cases happly
  | ok text => rw [hdecision] at happly; cases happly; rfl

/-- The small chunk is hardened, has its entry, and is printed. -/
theorem run_rewrite_iff_printed :
    auditedJournal.Adds .rewritten
        ((run {} ["rewrite".toList, "/in".toList]).appended auditedMachine) ∧
      ((run {} ["rewrite".toList, "/in".toList]).run auditedMachine).2 = 0 ∧
      ((run {} ["rewrite".toList, "/in".toList]).run auditedMachine).1.output = MainChunk.hardenedSample := by
  obtain ⟨hadds, hexit, hblocked⟩ := run_rewrite_iff {} ["rewrite".toList, "/in".toList] auditedMachine none
    (auditedRequest .output) auditedSettings MainChunk.sample "/log".toList rfl run_load_audited text_audited
    run_open?_audited rfl
  have hadded := hadds.mpr ⟨_, result_audited .output⟩
  have hzero : ((run {} ["rewrite".toList, "/in".toList]).run auditedMachine).2 = 0 := by
    by_contra hne
    obtain ⟨text, -, fault, hfault⟩ := hblocked.mp ⟨hadded, hne⟩
    rw [(Program.grown_run _ auditedMachine).outputFault?] at hfault
    cases hfault
  obtain ⟨text, htext, hdelivered⟩ := hexit.mp hzero
  cases htext.symm.trans (result_audited .output)
  exact ⟨hadded, hzero, hdelivered⟩

/-- The small chunk is hardened and has its entry, and the exit code is 1: the directory that it was to be
written in is not there. -/
theorem adds_rewritten_undelivered :
    auditedJournal.Adds .rewritten
        ((run {} ["rewrite".toList, "/in".toList, "-o".toList, "/no/out".toList]).appended auditedMachine) ∧
      ((run {} ["rewrite".toList, "/in".toList, "-o".toList, "/no/out".toList]).run auditedMachine).2 = 1 := by
  let r := auditedRequest (.file "/no/out".toList)
  have hargs : read ["rewrite".toList, "/in".toList, "-o".toList, "/no/out".toList] =
      .run ⟨none, .rewrite r⟩ := rfl
  obtain ⟨l, hopens⟩ := Journal.opens_open? (s := auditedSettings.journal) run_open?_audited
  obtain ⟨⟨diagnostics, hafter⟩, hadded⟩ := run_rewrite {} hargs run_load_audited text_audited
  rw [hadded, hafter]
  refine ⟨?_, ?_⟩
  · rw [RewriteRequest.adds_harden_iff (s := .of {} auditedSettings) run_open?_audited rfl hopens rfl]
    exact ⟨_, result_audited _⟩
  · change exitCode _ = 1
    rw [(r.harden_eq MainChunk.sample (s := .of {} auditedSettings) run_open?_audited).1,
      RewriteRequest.told, RewriteRequest.followUp, result_audited]
    decide +kernel

end Sample

end CommandLine

end BundleHardening
