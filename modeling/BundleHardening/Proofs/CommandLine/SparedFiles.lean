import BundleHardening.Proofs.CommandLine.Rewrite
import BundleHardening.Proofs.Host.Frame

/-!
# The files that a rewrite leaves alone

A rewrite writes to two files at most: to that of the journal, whatever becomes of the chunk, and to the one
that was asked for, once the text is hardened.  A file that cannot be read or is refused is therefore left
as it is, and so is every other file, also when the file was to be rewritten in place
(`CommandLine.run_rewrite_spares`).
-/

set_option autoImplicit false

namespace BundleHardening

open Program (Silent Writes)

/-! ## The file of the journal -/

/-- Whether a path is that of the file that the settings name for the journal. -/
def JournalSettings.Names (s : JournalSettings) (env : Environment) (p : Path) : Prop :=
  s.enabled = true ∧ ∃ given, s.file = some given ∧ p = env.expandHome given

namespace Journal

variable {j : Journal} {P : Path → Prop}

/-- Opening the file of a journal writes to no other file. -/
theorem writes_openFile {p : Path} (hp : P p) : (openFile p).Writes P fun _ => True := by
  rw [openFile]
  cases p.parent? with
  | none => exact ⟨hp, fun _ => trivial⟩
  | some directory =>
    intro r
    cases r with
    | error e => exact trivial
    | ok u => exact ⟨hp, fun _ => trivial⟩

/-- Opening the journal that the settings ask for writes to the file that they name, and the journal goes on
to write to that file. -/
theorem writes_open? {s : JournalSettings} {env : Environment} (h : ∀ p, s.Names env p → P p) :
    (open? s env).Writes P fun journal => ∀ j, journal = some j → ∀ p, j.file = some p → P p := by
  rw [open?]
  split
  · next henabled =>
    split
    · rintro j ⟨⟩ p ⟨⟩
    · next given hgiven =>
      have hp : P (env.expandHome given) := h _ ⟨henabled, given, hgiven, rfl⟩
      refine (writes_openFile hp).andThen fun r _ => ?_
      cases r with
      | error e => rintro j ⟨⟩ p ⟨⟩
      | ok u => rintro j ⟨⟩ p ⟨⟩; exact hp
  · rintro j ⟨⟩

/-- Adding an entry writes to the file of the journal. -/
theorem writes_add (hj : ∀ p, j.file = some p → P p) (e : Entry) : (j.add e).Writes P fun _ => True := by
  rw [add]
  split
  · next p hp => exact ⟨hj p hp, fun _ => trivial⟩
  · exact trivial

/-- Telling the journal of a chunk writes to its file. -/
theorem writes_record (hj : ∀ p, j.file = some p → P p) (o : Occurrence) :
    (j.record o).Writes P fun _ => True := by
  rw [record_eq]
  split
  · exact fun now => writes_add hj _
  · exact trivial

/-- Telling a journal, if there is one, writes to its file. -/
theorem writes_tell {journal : Option Journal} (h : ∀ j, journal = some j → ∀ p, j.file = some p → P p)
    (o : Occurrence) : (tell journal o).Writes P fun _ => True := by
  cases journal with
  | none => exact trivial
  | some j => exact writes_record (h j rfl) o

end Journal

namespace CommandLine

namespace RewriteRequest

variable {r : RewriteRequest} {s : Setting} {m : Machine} {source text : Text} {e : RewriteError}

/-- Whether the file cannot be read as a text, or its text is refused. -/
def Refused (r : RewriteRequest) (s : Setting) (m : Machine) : Prop :=
  (∃ e, m.text r.file = .error e) ∨
    ∃ source e, m.text r.file = .ok source ∧ r.result s source = .error e

/-- The path of the journal, or the one that was asked for. -/
def Written (r : RewriteRequest) (s : Setting) (p : Path) : Prop :=
  s.settings.journal.Names s.environment p ∨ r.target? = some p

/-- Delivering writes to the file that was asked for, if there is one. -/
theorem writes_deliver (r : RewriteRequest) (s : Setting) (text : Text) (report : RenderReport) (us : Nat) :
    (r.deliver s text report us).Writes (r.Written s) fun _ => True := by
  rw [deliver]
  split
  · intro taken
    cases taken <;> exact trivial
  · next p hp =>
    refine ⟨.inr hp, fun written => ?_⟩
    cases written <;> exact trivial

/-- A source that is refused ends in an error; only the journal is written to, and nothing is printed. -/
theorem run_harden_refused (hresult : r.result s source = .error e) (m : Machine) :
    ((r.harden s source).run m).2 = .error e.message.toList ∧
      ((r.harden s source).run m).1.output = m.output ∧
      m.Spares (s.settings.journal.Names s.environment) ((r.harden s source).run m).1 := by
  have hwrites : (r.harden s source).Writes (s.settings.journal.Names s.environment) fun _ => True := by
    rw [harden_of_error hresult]
    exact (Journal.writes_open? fun _ h => h).andThen fun journal hjournal _ =>
      (Journal.writes_tell hjournal _).andThen fun _ _ => trivial
  have hsilent : (r.harden s source).Silent := by
    rw [harden_of_error hresult]
    exact (Journal.silent_open? _ _).andThen fun journal _ =>
      (Journal.silent_tell journal _).andThen fun _ => Silent.pure _
  exact ⟨run_harden_of_error hresult m, hsilent.prints_run m .output, hwrites.spares_run m⟩

/-- With a source that is hardened, no file is written to but that of the journal and the one that was asked
for. -/
theorem spares_run_harden (hresult : r.result s source = .ok text) (m : Machine) :
    m.Spares (r.Written s) ((r.harden s source).run m).1 := by
  have hwrites : (r.harden s source).Writes (r.Written s) fun _ => True := by
    rw [harden_of_ok hresult]
    exact (Journal.writes_open? fun _ h => .inl h).andThen fun journal hjournal _ _ =>
      (Journal.writes_tell hjournal _).andThen fun _ _ => writes_deliver _ _ _ _ _
  exact hwrites.spares_run m

end RewriteRequest

section Program

variable {env : Environment} {arguments : List Text} {named : Option Path} {r : RewriteRequest}
  {settings : Settings} {m : Machine}

/-- A file that cannot be read ends a rewrite at once. -/
theorem RewriteRequest.run_unread {s : Setting} {e : FileError} (hread : m.text r.file = .error e) :
    ∃ message, (r.run s).run m = (m, .error message) := by
  rw [RewriteRequest.run, Program.bind_eq, Program.run_andThen, Program.run_readText, hread]
  exact ⟨_, rfl⟩

end Program

/-- A rewrite of a file that cannot be read, or that the rules refuse, ends in the exit code 1 and prints
nothing on the output, and only the file of the journal is written to, if settings ask for one.  When
the exit code is 0, the file was read and hardened, with the declarations if the arguments or the settings
ask for them; the hardened text was delivered; and apart from the file that it was to be written to, if one
was asked for, and that of the journal, all files are what they were. -/
theorem run_rewrite_spares (env : Environment) (arguments : List Text) (m : Machine) (named : Option Path)
    (r : RewriteRequest) (settings : Settings) (hargs : read arguments = .run ⟨named, .rewrite r⟩)
    (hload : ((Settings.load env named).run m).2 = .ok settings) :
    let s := Setting.of env settings
    let after := (run env arguments).run m
    (r.Refused s m →
      after.2 = 1 ∧ after.1.output = m.output ∧ m.Spares (settings.journal.Names env) after.1) ∧
    (after.2 = 0 →
      ∃ source text, m.text r.file = .ok source ∧ r.result s source = .ok text ∧
        r.Delivered m after.1 text ∧
        m.Spares (fun p => settings.journal.Names env p ∨ r.target? = some p) after.1) := by
  intro s after
  obtain ⟨⟨diagnostics, hafter⟩, -⟩ := run_request env hargs hload
  have hrefused (h : r.Refused s m) :
      after.2 = 1 ∧ after.1.output = m.output ∧ m.Spares (settings.journal.Names env) after.1 := by
    rw [show after = _ from hafter]
    obtain ⟨e, hread⟩ | ⟨source, e, hread, hresult⟩ := h
    · obtain ⟨message, hrun⟩ := RewriteRequest.run_unread (r := r) (s := s) hread
      rw [hrun]
      exact ⟨rfl, rfl, fun l _ => .refl _⟩
    · rw [(RewriteRequest.run_run hread).1]
      obtain ⟨hfailed, houtput, hspares⟩ := RewriteRequest.run_harden_refused hresult m
      exact ⟨by rw [hfailed]; rfl, houtput, hspares⟩
  refine ⟨hrefused, fun hzero => ?_⟩
  have hnot : ¬ r.Refused s m := fun h => Nat.one_ne_zero ((hrefused h).1.symm.trans hzero)
  obtain ⟨hreads, haccepts⟩ := not_or.mp hnot
  cases hread : m.text r.file with
  | error e => exact absurd ⟨e, hread⟩ hreads
  | ok source =>
    cases hresult : r.result s source with
    | error e => exact absurd ⟨source, e, hread, hresult⟩ haccepts
    | ok text =>
      rw [show after = _ from hafter, (RewriteRequest.run_run hread).1] at hzero ⊢
      have htells := (RewriteRequest.tells_harden hresult m).withDiagnostics diagnostics
      have hspares := RewriteRequest.spares_run_harden hresult m
      exact ⟨source, text, rfl, hresult, htells.delivered.mp (exitCode_eq_zero_iff.mp hzero), hspares⟩

section Sample

/-- The machine with a page in place of the small chunk. -/
def pageMachine : Machine :=
  auditedMachine.withFile ["in".toList] (Text.toBytes "page".toList)

theorem run_load_page : ((Settings.load {} none).run pageMachine).2 = .ok auditedSettings := by
  decide +kernel

theorem text_page : pageMachine.text "/in".toList = .ok "page".toList := by
  decide

/-- The page declares no registry. -/
theorem refused_page : (auditedRequest .inPlace).Refused (.of {} auditedSettings) pageMachine := by
  have hdecision : MainChunk.decision "page".toList =
      .error ⟨MainChunk.registrySubstitution, 1, "page".toList⟩ := by
    have hfirst : Registry.spans.first? (MainChunk.safeCalls "page".toList) = none := by decide
    rw [MainChunk.decision, hfirst]
  refine .inr ⟨"page".toList, MainChunk.Refusal.error ⟨MainChunk.registrySubstitution, 1, "page".toList⟩
    ((Setting.of {} auditedSettings).chunk none).context, text_page, ?_⟩
  rw [RewriteRequest.result, Hardener.result_render _ _ (by decide), hdecision]
  rfl

/-- A path that leads to a place in the root opens no file but the one there. -/
theorem eq_of_opensAt {m : Machine} {p : Path} {l : Location} {name : Text} (hdirectory : m.directory = [])
    (hp : ∀ t : FileTree, t.opening? [] p = .ok (some ⟨[], name, false⟩)) (h : m.OpensAt p l) :
    l = [name] := by
  obtain ⟨old, hopen⟩ := h
  rw [hdirectory] at hopen
  obtain ⟨o, hopening, -, hl, -, -⟩ := FileTree.of_openFile hopen
  cases (hp m.files).symm.trans hopening
  exact hl

/-- The file of the journal is opened beside the one that is rewritten. -/
theorem not_opensAt_log {m : Machine} (hdirectory : m.directory = []) {p : Path}
    (hp : auditedSettings.journal.Names {} p) : ¬ m.OpensAt p ["in".toList] := by
  obtain ⟨-, given, ⟨⟩, rfl⟩ := hp
  intro hopens
  have hlog : ["in".toList] = ["log".toList] := eq_of_opensAt hdirectory (fun _ => rfl) hopens
  cases hlog

/-- The small chunk can be rewritten in place. -/
theorem not_blocked_audited (q : Program (Except Text Unit)) (text : Text) :
    ¬ (auditedRequest .inPlace).Blocked (q.run auditedMachine).1 text := by
  have hgrown := q.grown_run auditedMachine
  rintro (⟨e, herror⟩ | ⟨l, old, fault, -, hfault⟩)
  · have hopens : auditedMachine.Opens "/in".toList ["in".toList] (Text.toBytes MainChunk.sample) := ⟨rfl, rfl⟩
    obtain ⟨old, hopen⟩ := hgrown.opensAt hopens
    cases herror.symm.trans hopen
  · rw [hgrown.fileFault?] at hfault
    cases hfault

/-- A rewrite in place that leaves a refused page as it is, and one that hardens the small chunk. -/
theorem run_rewrite_spares_inPlace :
    (((run {} ["rewrite".toList, "/in".toList, "--in-place".toList]).run pageMachine).2 = 1 ∧
      ((run {} ["rewrite".toList, "/in".toList, "--in-place".toList]).run pageMachine).1.files.node?
        ["in".toList] = some (.file (Text.toBytes "page".toList))) ∧
    ((run {} ["rewrite".toList, "/in".toList, "--in-place".toList]).run auditedMachine).2 = 0 ∧
      ((run {} ["rewrite".toList, "/in".toList, "--in-place".toList]).run auditedMachine).1.files.node?
        ["in".toList] = some (.file (Text.toBytes MainChunk.hardenedSample)) := by
  have hargs : read ["rewrite".toList, "/in".toList, "--in-place".toList] =
      .run ⟨none, .rewrite (auditedRequest .inPlace)⟩ := rfl
  generalize ["rewrite".toList, "/in".toList, "--in-place".toList] = arguments at hargs ⊢
  refine ⟨?_, ?_⟩
  · obtain ⟨hrefused, -⟩ := run_rewrite_spares {} arguments pageMachine none _ auditedSettings hargs run_load_page
    obtain ⟨hexit, -, hspares⟩ := hrefused refused_page
    have hdirectory := ((run {} arguments).grown_run pageMachine).directory
    have hsame := hspares ["in".toList] fun p hp => not_opensAt_log hdirectory hp
    have hpage : pageMachine.files.node? ["in".toList] = some (.file (Text.toBytes "page".toList)) :=
      FileTree.node?_put_self (List.cons_ne_nil _ _)
    exact ⟨hexit, (hsame _).mpr hpage⟩
  · obtain ⟨-, hhardened⟩ := run_rewrite_spares {} arguments auditedMachine none _ auditedSettings hargs
      run_load_audited
    obtain ⟨⟨diagnostics, hafter⟩, -⟩ := run_rewrite {} hargs run_load_audited text_audited
    have htells := RewriteRequest.tells_harden (result_audited .inPlace) auditedMachine
    have hzero : ((run {} arguments).run auditedMachine).2 = 0 := by
      rw [hafter]
      exact congrArg exitCode (htells.blocked.mpr (not_blocked_audited _ _))
    obtain ⟨source, text, hread, hresult, ⟨l, hopens⟩, -⟩ := hhardened hzero
    cases text_audited.symm.trans hread
    cases (result_audited .inPlace).symm.trans hresult
    have hdirectory := ((run {} arguments).grown_run auditedMachine).directory
    obtain rfl := eq_of_opensAt hdirectory (fun _ => rfl) ⟨_, hopens.opens⟩
    exact ⟨hzero, hopens.holds⟩

end Sample

end CommandLine

end BundleHardening
