import BundleHardening.CommandLine.Run
import BundleHardening.Proofs.Hook.Input
import BundleHardening.Proofs.Journal
import BundleHardening.Proofs.Json.Texts
import BundleHardening.Proofs.Render

/-!
# What a build step is told

A build step sees an exit code, what was printed on the output and what was printed among the diagnostics.
Whatever it sends, whatever the files and the clocks of the host are, it can read exactly one reply off
these three (`CommandLine.existsUnique_given_answer`): that no chunk was read, the hardened chunk, or the
rule that refused it.
-/

set_option autoImplicit false

namespace BundleHardening

/-- What a build step is told: why nothing was read, of which a missing source is one case; the hardened
chunk; or the four parts of a refusal. -/
inductive Reply where
  | unread (e : ReadError)
  | hardened (text : Text)
  | refused (error rule pattern chunk : Text)

/-- Whether one line was printed behind the output of a machine, an object with the given members. -/
def Machine.GaveLine (before after : Machine) (ms : List (String × Text)) : Prop :=
  ∃ line, after.output = before.output ++ line ++ ['\n'] ∧ '\n' ∉ line ∧ Json.texts? line = .ok ms

/-- The exit code that goes with a reply. -/
def Reply.exitCode : Reply → Nat
  | unread _ => 2
  | hardened _ => 0
  | refused _ _ _ _ => 1

/-- Whether a reply was printed behind what a machine had printed. -/
def Reply.Printed (before after : Machine) : Reply → Prop
  | unread e =>
    after.output = before.output ∧
      after.diagnostics = before.diagnostics ++ "bpg: ".toList ++ e.message.toList ++ ['\n']
  | hardened text => before.GaveLine after [("source", text)]
  | refused error rule pattern chunk =>
    before.GaveLine after [("error", error), ("rule", rule), ("pattern", pattern), ("chunk", chunk)]

/-- Whether a run that began on a machine gave the reply. -/
structure Reply.Given (before : Machine) (run : Machine × Nat) (r : Reply) : Prop where
  exit : run.2 = r.exitCode
  printed : r.Printed before run.1

/-! ## Reading the reply -/

section Reading

variable {before after : Machine} {run : Machine × Nat}

/-- The members of the line that was printed are determined by what was printed. -/
theorem Machine.GaveLine.unique {ms ns : List (String × Text)} (hms : before.GaveLine after ms)
    (hns : before.GaveLine after ns) : ms = ns := by
  obtain ⟨line, houtput, -, hread⟩ := hms
  obtain ⟨line', houtput', -, hread'⟩ := hns
  have hline : line = line' := by
    rw [houtput, List.append_assoc, List.append_assoc] at houtput'
    exact List.append_cancel_right (List.append_cancel_left houtput')
  rw [hline, hread'] at hread
  exact (Except.ok.inj hread).symm

/-- The line of an object of strings, read back. -/
theorem Machine.gaveLine_textObject (ms : List (String × Text))
    (houtput : after.output = before.output ++ (Json.textObject ms ++ ['\n'])) :
    before.GaveLine after ms := by
  refine ⟨Json.textObject ms, ?_, fun hbreak => ?_, Json.texts?_textObject ms⟩
  · rw [houtput, List.append_assoc]
  · exact absurd (Json.le_of_mem_textObject hbreak) (by decide)

/-- No run gives two replies. -/
theorem Reply.Given.unique {r r' : Reply} (h : r.Given before run) (h' : r'.Given before run) :
    r = r' := by
  have hexit : r.exitCode = r'.exitCode := h.exit.symm.trans h'.exit
  have hprinted := h.printed
  have hprinted' := h'.printed
  cases r <;> cases r'
  case unread.unread e e' =>
    have hmessage := hprinted.2.symm.trans hprinted'.2
    simp only [List.append_assoc, List.append_cancel_left_eq, List.append_cancel_right_eq] at hmessage
    rw [ReadError.eq_of_message (String.toList_inj.mp hmessage)]
  case hardened.hardened =>
    cases hprinted.unique hprinted'
    rfl
  case refused.refused =>
    cases hprinted.unique hprinted'
    rfl
  -- replies of two kinds go with two exit codes
  all_goals cases hexit

/-- Only what was printed before counts. -/
theorem Reply.Given.of_prints {before' : Machine} {r : Reply} (h : r.Given before' run)
    (hprints : ∀ channel, before'.prints channel = before.prints channel) : r.Given before run := by
  have houtput : before'.output = before.output := hprints .output
  have hdiagnostics : before'.diagnostics = before.diagnostics := hprints .diagnostics
  have hprinted := h.printed
  refine ⟨h.exit, ?_⟩
  cases r <;> simpa only [Printed, Machine.GaveLine, houtput, hdiagnostics] using hprinted

/-- A reply that comes behind a silent program is the reply of the whole. -/
theorem Program.Silent.given_andThen {α : Type} {p : Program α} {f : α → Program Nat} {r : Reply}
    (hp : p.Silent) (hf : ∀ a m, r.Given m ((f a).run m)) (m : Machine) :
    r.Given m ((p.andThen f).run m) := by
  rw [Program.run_andThen]
  exact (hf _ _).of_prints (hp.prints_run m)

end Reading

/-! ## The name of the chunk -/

/-- The name under which the chunk of a message is shown: the one that was sent, or else the default name;
an empty one gives way to the name of the code that is rewritten. -/
def Message.shownName (message : Message) (defaultName : String) : String :=
  let name := match message.chunk with
    | some { name := some given } => given
    | _ => defaultName
  if name = "" then "bootstrap" else name

/-- The name that rules are told is shown. -/
theorem Message.displayName_target (message : Message) (defaultName : String) :
    (message.target defaultName).context.displayName = message.shownName defaultName := by
  have hdisplay : ∀ name : String,
      Context.displayName { chunkName := some name } = if name = "" then "bootstrap" else name := by
    intro name
    simp only [Context.displayName, String.isEmpty_iff]
  obtain ⟨source, chunk⟩ := message
  rcases chunk with _ | ⟨_ | given⟩ <;> exact hdisplay _

/-! ## Refusals -/

namespace RewriteError

/-- The wording of an error of shape. -/
theorem toList_message_mismatch (index : Option Nat) (rule : String) (pattern : Text) (chunk : String)
    (source : Text) :
    (mismatch index rule pattern chunk source).message.toList =
      "[ProtectBootstrap] \"".toList ++ pattern ++ "\" not found in ".toList ++ chunk.toList := by
  change (heading ++ " \"" ++ String.ofList pattern ++ "\" not found in " ++ chunk).toList = _
  simp only [String.toList_append, String.toList_ofList]
  rfl

end RewriteError

/-! ## The reply that is called for -/

/-- The reply that the result of hardening a chunk calls for. -/
def Reply.ofResult (label : String) : Except RewriteError Text → Reply
  | .ok text => .hardened text
  | .error e => .refused e.message.toList e.rule.toList e.pattern label.toList

namespace Intake

variable {i : Intake} {bytes : ByteArray} {message : Message} {source : Text}

/-- The reply that bytes call for. -/
def reply (i : Intake) (bytes : ByteArray) : Reply :=
  match Message.readFrom bytes i.limit with
  | .error e => .unread e
  | .ok message =>
    match message.source with
    | none => .unread .missingSource
    | some source => .ofResult (message.shownName i.defaultName) (i.harden message source)

/-- What cannot be read calls for the read error. -/
theorem reply_of_error {e : ReadError} (hread : Message.readFrom bytes i.limit = .error e) :
    i.reply bytes = .unread e := by
  rw [reply, hread]

/-- A message without a source calls for the error that says so. -/
theorem reply_of_none (hread : Message.readFrom bytes i.limit = .ok message)
    (hsource : message.source = none) : i.reply bytes = .unread .missingSource := by
  rw [reply, hread]
  dsimp only
  rw [hsource]

/-- A source that is taken calls for what hardening it comes to. -/
theorem reply_of_takes (htakes : i.Takes bytes message source) :
    i.reply bytes = .ofResult (message.shownName i.defaultName) (i.harden message source) := by
  rw [reply, htakes.1]
  dsimp only
  rw [htakes.2]

/-- A read error is called for when the bytes cannot be read, or hold no source. -/
theorem reply_eq_unread_iff {e : ReadError} :
    i.reply bytes = .unread e ↔
      Message.readFrom bytes i.limit = .error e ∨
        e = .missingSource ∧
          ∃ message, Message.readFrom bytes i.limit = .ok message ∧ message.source = none := by
  constructor
  · intro h
    rw [reply] at h
    split at h
    · next e' hread =>
      cases h
      exact .inl hread
    · next message hread =>
      split at h
      · next hsource =>
        cases h
        exact .inr ⟨rfl, message, hread, hsource⟩
      · next source _ =>
        cases hharden : i.harden message source with
        | ok text => rw [hharden] at h; cases h
        | error e' => rw [hharden] at h; cases h
  · rintro (hread | ⟨rfl, message, hread, hsource⟩)
    · exact reply_of_error hread
    · exact reply_of_none hread hsource

/-- A reply that is no read error is called for by a source that was taken, and what it comes to. -/
theorem exists_takes_of_reply {r : Reply} (h : i.reply bytes = r) (hread : ∀ e, r ≠ .unread e) :
    ∃ message source, i.Takes bytes message source ∧
      r = .ofResult (message.shownName i.defaultName) (i.harden message source) := by
  rw [reply] at h
  split at h
  · next e _ => exact absurd h.symm (hread e)
  · next message hmessage =>
    split at h
    · exact absurd h.symm (hread .missingSource)
    · next source hsource => exact ⟨message, source, ⟨hmessage, hsource⟩, h.symm⟩

/-- A hardened text is called for when there is a source that is hardened to it. -/
theorem reply_eq_hardened_iff {text : Text} :
    i.reply bytes = .hardened text ↔
      ∃ message source, i.Takes bytes message source ∧ i.harden message source = .ok text := by
  constructor
  · intro h
    obtain ⟨message, source, htakes, hresult⟩ := exists_takes_of_reply h nofun
    refine ⟨message, source, htakes, ?_⟩
    cases hharden : i.harden message source with
    | ok out =>
      rw [hharden] at hresult
      cases hresult
      rfl
    | error e =>
      rw [hharden] at hresult
      cases hresult
  · rintro ⟨message, source, htakes, hharden⟩
    rw [reply_of_takes htakes, hharden, Reply.ofResult]

/-- A refusal is called for when there is a source that is refused.  It is told in the words of the error of
shape, of a rule for the main chunk or for the runtime, and of the name of the chunk. -/
theorem reply_eq_refused_iff {error rule pattern chunk : Text} :
    i.reply bytes = .refused error rule pattern chunk ↔
      ∃ message source e, i.Takes bytes message source ∧ i.harden message source = .error e ∧
        rule = e.rule.toList ∧ pattern = e.pattern ∧
        chunk = (message.shownName i.defaultName).toList ∧
        error = "[ProtectBootstrap] \"".toList ++ pattern ++ "\" not found in ".toList ++ chunk ∧
        ∃ s : Substitution, .substitute s ∈ MainChunk.rules.rules ++ Bootstrap.rules.rules ∧
          s.name.toList = rule ∧ s.target.written = pattern := by
  have hwording : ∀ {message source e}, i.harden message source = .error e →
      e.message.toList =
          "[ProtectBootstrap] \"".toList ++ e.pattern ++ "\" not found in ".toList ++
            (message.shownName i.defaultName).toList ∧
        ∃ s : Substitution, .substitute s ∈ MainChunk.rules.rules ++ Bootstrap.rules.rules ∧
          s.name.toList = e.rule.toList ∧ s.target.written = e.pattern := by
    intro message source e he
    obtain ⟨r, hdecision, rfl⟩ := Hardener.exists_refusal_of_error _ _ he
    rw [← Message.displayName_target]
    exact ⟨RewriteError.toList_message_mismatch _ _ _ _ _, r.rule,
      MainChunk.mem_rules_of_decision hdecision, rfl, rfl⟩
  constructor
  · intro h
    obtain ⟨message, source, htakes, hresult⟩ := exists_takes_of_reply h nofun
    cases hharden : i.harden message source with
    | ok out =>
      rw [hharden] at hresult
      cases hresult
    | error e =>
      rw [hharden] at hresult
      cases hresult
      obtain ⟨herror, hrule⟩ := hwording hharden
      exact ⟨message, source, e, htakes, hharden, rfl, rfl, rfl, herror, hrule⟩
  · rintro ⟨message, source, e, htakes, hharden, rfl, rfl, rfl, rfl, -⟩
    rw [reply_of_takes htakes, hharden, Reply.ofResult, (hwording hharden).1]

end Intake

namespace CommandLine

/-- A read error is told as it is. -/
theorem given_unread (e : ReadError) (m : Machine) : (Reply.unread e).Given m ((unread e).run m) := by
  refine ⟨rfl, rfl, ?_⟩
  change m.diagnostics ++ ("bpg: ".toList ++ e.message.toList ++ ['\n']) = _
  simp only [List.append_assoc]

/-- The reply of a delivery is given, whether or not a journal is kept. -/
theorem given_finish (s : Setting) (journal : Option Journal) (d : Delivery) (start : Nat) (m : Machine) :
    (Reply.ofResult d.label d.result).Given m ((finish s journal d start).run m) := by
  obtain ⟨chunk, source, result⟩ := d
  cases result with
  | ok text =>
    have hline : ∀ m : Machine,
        (Reply.hardened text).Given m ((Program.line (hardenedLine text) >>= fun _ => pure 0).run m) :=
      fun m => ⟨rfl, Machine.gaveLine_textObject [("source", text)] rfl⟩
    cases journal with
    | none => exact hline m
    | some j => exact (j.silent_addRewritten _ _ _).given_andThen (fun _ m => hline m) m
  | error e =>
    have hline : ∀ (t : Text) (m : Machine),
        (Reply.refused e.message.toList e.rule.toList e.pattern chunk.context.displayName.toList).Given m
          ((Program.line (refusedLine e chunk.context.displayName) >>= fun _ =>
            Program.print .diagnostics t (pure 1)).run m) :=
      fun t m => ⟨rfl, Machine.gaveLine_textObject _ rfl⟩
    cases journal with
    | none => exact hline _ m
    | some j => exact (j.silent_addRefused _ _ _).given_andThen (fun _ m => hline _ m) m

/-- The reply that the input calls for is given. -/
theorem given_answer (s : Setting) (m : Machine) :
    (s.intake.reply m.input).Given m ((answer s).run m) := by
  have htaken : Message.readFrom (m.input.extract 0 (s.intake.limit + 1).toNat) s.intake.limit =
      Message.readFrom m.input s.intake.limit :=
    Message.readFrom_taken m.input s.intake.limit
  rw [answer, Program.run, htaken]
  cases hread : Message.readFrom m.input s.intake.limit with
  | error e =>
    rw [Intake.reply_of_error hread]
    exact given_unread e m
  | ok message =>
    dsimp only
    cases hsource : message.source with
    | none =>
      rw [Intake.reply_of_none hread hsource, if_pos Option.isNone_none]
      exact given_unread .missingSource m
    | some source =>
      rw [Intake.reply_of_takes ⟨hread, hsource⟩, ← Message.displayName_target, Option.isNone_some,
        if_neg Bool.false_ne_true]
      refine (Journal.silent_open? s.settings.journal s.environment).given_andThen ?_ m
      intro journal m
      rw [Intake.deliver_of_source hsource]
      exact given_finish s journal _ m.microseconds m

/-- A run gives exactly one reply.  It gives a read error when the input cannot be read or holds no source, and
the hardened text when there is a source that is hardened to it.  When the source is refused, the refusal
names the chunk, a rule, the pattern of the rule, and an error that is made of this pattern and this name. -/
theorem existsUnique_given_answer (s : Setting) (m : Machine) :
    (∃! reply : Reply, reply.Given m ((answer s).run m)) ∧
    (∀ e, (Reply.unread e).Given m ((answer s).run m) ↔
      Message.readFrom m.input s.intake.limit = .error e ∨
        e = .missingSource ∧
          ∃ message, Message.readFrom m.input s.intake.limit = .ok message ∧
            message.source = none) ∧
    (∀ text, (Reply.hardened text).Given m ((answer s).run m) ↔
      ∃ message source, s.intake.Takes m.input message source ∧
        s.intake.harden message source = .ok text) ∧
    (∀ error rule pattern chunk,
      (Reply.refused error rule pattern chunk).Given m ((answer s).run m) ↔
        ∃ message source e, s.intake.Takes m.input message source ∧
          s.intake.harden message source = .error e ∧
          rule = e.rule.toList ∧ pattern = e.pattern ∧
          chunk = (message.shownName s.intake.defaultName).toList ∧
          error = "[ProtectBootstrap] \"".toList ++ pattern ++ "\" not found in ".toList ++ chunk ∧
          ∃ sub : Substitution, .substitute sub ∈ MainChunk.rules.rules ++ Bootstrap.rules.rules ∧
            sub.name.toList = rule ∧ sub.target.written = pattern) := by
  have hgiven := given_answer s m
  have hiff : ∀ r : Reply, r.Given m ((answer s).run m) ↔ s.intake.reply m.input = r := by
    intro r
    constructor
    · exact hgiven.unique
    · rintro rfl
      exact hgiven
  refine ⟨⟨_, hgiven, fun r hr => (hgiven.unique hr).symm⟩, fun e => ?_, fun text => ?_,
    fun error rule pattern chunk => ?_⟩
  · exact (hiff _).trans Intake.reply_eq_unread_iff
  · exact (hiff _).trans Intake.reply_eq_hardened_iff
  · exact (hiff _).trans Intake.reply_eq_refused_iff

end CommandLine

end BundleHardening
