import BundleHardening.Settings.Basic

/-!
# Keys of the settings

Each choice of a user has a key: the way to it through a document, the kind of its value, and its place in
the settings.  Settings that are taken from a document have, under every key, the value that the document
assigns to it, and the default where it assigns none (`Settings.value_of_ofData?`).
-/

set_option autoImplicit false

namespace BundleHardening

/-- A choice that a user has. -/
inductive Settings.Key where
  | color
  | verbose
  | declares
  | dumpSource
  | defaultChunkName
  | maxInputBytes
  | journalEnabled
  | journalFile
  | journalFormat
  | journalSuccess
  | journalFailure
  deriving DecidableEq, Repr

/-- What a document has at the end of a way through its parts, each of which is told by its name and its
place. -/
def Data.along? {α : Type} (kind : Data → Option α) : (way : List (String × Nat)) → Data → Option α
  | [], d => kind d
  | (name, place) :: way, d => (d.part? name place).join.bind (along? kind way)

namespace Settings.Key

/-- The values that the key can have. -/
abbrev Value : Key → Type
  | color | defaultChunkName => String
  | verbose | declares | dumpSource | journalEnabled | journalSuccess | journalFailure => Bool
  | maxInputBytes => UInt64
  | journalFile => Option Text
  | journalFormat => EntryFormat

instance : (k : Key) → DecidableEq k.Value
  | color | defaultChunkName => inferInstanceAs (DecidableEq String)
  | verbose | declares | dumpSource | journalEnabled | journalSuccess | journalFailure =>
    inferInstanceAs (DecidableEq Bool)
  | maxInputBytes => inferInstanceAs (DecidableEq UInt64)
  | journalFile => inferInstanceAs (DecidableEq (Option Text))
  | journalFormat => inferInstanceAs (DecidableEq EntryFormat)

/-- The value of the key in settings. -/
def value (s : Settings) : (k : Key) → k.Value
  | color => s.general.color
  | verbose => s.general.verbose
  | declares => s.rewrite.declares
  | dumpSource => s.rewrite.dumpSource
  | defaultChunkName => s.rewrite.defaultChunkName
  | maxInputBytes => s.hook.maxInputBytes
  | journalEnabled => s.journal.enabled
  | journalFile => s.journal.file
  | journalFormat => s.journal.format
  | journalSuccess => s.journal.events.success
  | journalFailure => s.journal.events.failure

/-- The value of the key where nobody has chosen another. -/
def default (k : Key) : k.Value :=
  value {} k

/-- Whether the key is one of the journal. -/
def ofJournal : Key → Bool
  | journalEnabled | journalFile | journalFormat | journalSuccess | journalFailure => true
  | _ => false

/-- The way to the key through a document. -/
def way : Key → List (String × Nat)
  | color => [("general", 0), ("color", 0)]
  | verbose => [("general", 0), ("verbose", 1)]
  | declares => [("rewrite", 1), ("prelude", 0)]
  | dumpSource => [("rewrite", 1), ("dump_source", 1)]
  | defaultChunkName => [("rewrite", 1), ("default_chunk_name", 2)]
  | maxInputBytes => [("hook", 2), ("max_input_bytes", 0)]
  | journalEnabled => [("logging", 3), ("enabled", 0)]
  | journalFile => [("logging", 3), ("file", 1)]
  | journalFormat => [("logging", 3), ("format", 2)]
  | journalSuccess => [("logging", 3), ("events", 3), ("success", 0)]
  | journalFailure => [("logging", 3), ("events", 3), ("failure", 1)]

/-- The value of the key that data stands for. -/
def kind : (k : Key) → Data → Option k.Value
  | color | defaultChunkName => Data.string?
  | verbose | declares | dumpSource | journalEnabled | journalSuccess | journalFailure => Data.flag?
  | maxInputBytes => Data.size?
  | journalFile => Data.optionalText?
  | journalFormat => EntryFormat.ofData?

/-- The value that a document assigns to the key. -/
def assigned? (k : Key) (d : Data) : Option k.Value :=
  d.along? k.kind k.way

end Settings.Key

namespace Data

variable {α β : Type} {d : Data} {name : String} {place : Nat} {kind : Data → Option α} {default a : α}

/-- What is taken from a part comes from the part, if it is there, and else from the default. -/
theorem get_of_partOr (h : d.partOr name place kind default = some a) (get : α → β)
    (inner : Data → Option β)
    (hinner : ∀ p a, kind p = some a → get a = (inner p).getD (get default)) :
    get a = ((d.part? name place).join.bind inner).getD (get default) := by
  rw [partOr] at h
  cases hpart : d.part? name place with
  | none =>
    rw [hpart] at h
    cases h
  | some part =>
    rw [hpart] at h
    cases part with
    | none =>
      cases h
      rfl
    | some p => exact hinner p a h

/-- A value that is a part of its own. -/
theorem of_partOr (h : d.partOr name place kind default = some a) :
    a = ((d.part? name place).join.bind kind).getD default := by
  refine get_of_partOr h id kind fun p a hp => ?_
  rw [hp]
  rfl

end Data

/-! ## Settings from a document -/

section Parts

variable {d : Data}

theorem GeneralSettings.of_ofData? {s : GeneralSettings} (h : ofData? d = some s) :
    s.color = (d.along? Data.string? [("color", 0)]).getD "auto" ∧
      s.verbose = (d.along? Data.flag? [("verbose", 1)]).getD false := by
  simp only [ofData?, Option.bind_eq_bind, Option.bind_eq_some_iff, Option.some.injEq] at h
  obtain ⟨color, hcolor, verbose, hverbose, rfl⟩ := h
  exact ⟨Data.of_partOr hcolor, Data.of_partOr hverbose⟩

theorem RewriteSettings.of_ofData? {s : RewriteSettings} (h : ofData? d = some s) :
    s.declares = (d.along? Data.flag? [("prelude", 0)]).getD false ∧
      s.dumpSource = (d.along? Data.flag? [("dump_source", 1)]).getD true ∧
      s.defaultChunkName = (d.along? Data.string? [("default_chunk_name", 2)]).getD "main" := by
  simp only [ofData?, Option.bind_eq_bind, Option.bind_eq_some_iff, Option.some.injEq] at h
  obtain ⟨declares, hdeclares, dumpSource, hdumpSource, name, hname, rfl⟩ := h
  exact ⟨Data.of_partOr hdeclares, Data.of_partOr hdumpSource, Data.of_partOr hname⟩

theorem HookSettings.of_ofData? {s : HookSettings} (h : ofData? d = some s) :
    s.maxInputBytes = (d.along? Data.size? [("max_input_bytes", 0)]).getD (64 * 1024 * 1024) := by
  simp only [ofData?, Option.bind_eq_bind, Option.bind_eq_some_iff, Option.some.injEq] at h
  obtain ⟨most, hmost, rfl⟩ := h
  exact Data.of_partOr hmost

theorem EventFilter.of_ofData? {s : EventFilter} (h : ofData? d = some s) :
    s.success = (d.along? Data.flag? [("success", 0)]).getD false ∧
      s.failure = (d.along? Data.flag? [("failure", 1)]).getD true := by
  simp only [ofData?, Option.bind_eq_bind, Option.bind_eq_some_iff, Option.some.injEq] at h
  obtain ⟨success, hsuccess, failure, hfailure, rfl⟩ := h
  exact ⟨Data.of_partOr hsuccess, Data.of_partOr hfailure⟩

theorem JournalSettings.of_ofData? {s : JournalSettings} (h : ofData? d = some s) :
    s.enabled = (d.along? Data.flag? [("enabled", 0)]).getD false ∧
      s.file = (d.along? Data.optionalText? [("file", 1)]).getD none ∧
      s.format = (d.along? EntryFormat.ofData? [("format", 2)]).getD .text ∧
      s.events.success = (d.along? Data.flag? [("events", 3), ("success", 0)]).getD false ∧
      s.events.failure = (d.along? Data.flag? [("events", 3), ("failure", 1)]).getD true := by
  simp only [ofData?, Option.bind_eq_bind, Option.bind_eq_some_iff, Option.some.injEq] at h
  obtain ⟨enabled, henabled, file, hfile, format, hformat, events, hevents, rfl⟩ := h
  refine ⟨Data.of_partOr henabled, Data.of_partOr hfile, Data.of_partOr hformat, ?_, ?_⟩
  · exact Data.get_of_partOr hevents EventFilter.success _ fun _ _ h => (EventFilter.of_ofData? h).1
  · exact Data.get_of_partOr hevents EventFilter.failure _ fun _ _ h => (EventFilter.of_ofData? h).2

/-- Settings from a document have the values that the document assigns, and the defaults elsewhere. -/
theorem Settings.value_of_ofData? {s : Settings} (h : ofData? d = some s) (k : Key) :
    k.value s = (k.assigned? d).getD k.default := by
  simp only [ofData?, Option.bind_eq_bind, Option.bind_eq_some_iff, Option.some.injEq] at h
  obtain ⟨general, hgeneral, rewrite, hrewrite, hook, hhook, journal, hjournal, rfl⟩ := h
  cases k with
  | color =>
    exact Data.get_of_partOr hgeneral GeneralSettings.color _ fun _ _ h =>
      (GeneralSettings.of_ofData? h).1
  | verbose =>
    exact Data.get_of_partOr hgeneral GeneralSettings.verbose _ fun _ _ h =>
      (GeneralSettings.of_ofData? h).2
  | declares =>
    exact Data.get_of_partOr hrewrite RewriteSettings.declares _ fun _ _ h =>
      (RewriteSettings.of_ofData? h).1
  | dumpSource =>
    exact Data.get_of_partOr hrewrite RewriteSettings.dumpSource _ fun _ _ h =>
      (RewriteSettings.of_ofData? h).2.1
  | defaultChunkName =>
    exact Data.get_of_partOr hrewrite RewriteSettings.defaultChunkName _ fun _ _ h =>
      (RewriteSettings.of_ofData? h).2.2
  | maxInputBytes =>
    exact Data.get_of_partOr hhook HookSettings.maxInputBytes _ fun _ _ h => HookSettings.of_ofData? h
  | journalEnabled =>
    exact Data.get_of_partOr hjournal JournalSettings.enabled _ fun _ _ h =>
      (JournalSettings.of_ofData? h).1
  | journalFile =>
    exact Data.get_of_partOr hjournal JournalSettings.file _ fun _ _ h =>
      (JournalSettings.of_ofData? h).2.1
  | journalFormat =>
    exact Data.get_of_partOr hjournal JournalSettings.format _ fun _ _ h =>
      (JournalSettings.of_ofData? h).2.2.1
  | journalSuccess =>
    exact Data.get_of_partOr hjournal (·.events.success) _ fun _ _ h =>
      (JournalSettings.of_ofData? h).2.2.2.1
  | journalFailure =>
    exact Data.get_of_partOr hjournal (·.events.failure) _ fun _ _ h =>
      (JournalSettings.of_ofData? h).2.2.2.2

end Parts

end BundleHardening
