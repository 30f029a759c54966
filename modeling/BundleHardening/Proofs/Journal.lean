import BundleHardening.Journal.Basic
import BundleHardening.Proofs.Host.Program

/-!
# The journal prints nothing

What goes into the journal goes into its file: neither opening it nor adding an entry shows on the output
or among the diagnostics.
-/

set_option autoImplicit false

namespace BundleHardening.Journal

open Program (Silent)

/-- Opening the file prints nothing. -/
theorem silent_openFile (p : Path) : (openFile p).Silent := by
  rw [openFile]
  cases p.parent? with
  | none => exact fun _ => trivial
  | some directory =>
    intro r
    cases r with
    | error e => exact Silent.pure _
    | ok u => exact fun _ => trivial

/-- Opening the journal that the settings ask for prints nothing. -/
theorem silent_open? (s : JournalSettings) (env : Environment) : (open? s env).Silent := by
  rw [open?]
  split
  · split
    · exact Silent.pure _
    · next given _ =>
      refine (silent_openFile (env.expandHome given)).andThen fun r => ?_
      cases r <;> exact Silent.pure _
  · exact Silent.pure _

/-- Adding an entry prints nothing. -/
theorem silent_add (j : Journal) (e : Entry) : (j.add e).Silent := by
  rw [add]
  split
  · exact fun _ => trivial
  · exact Silent.pure _

/-- Adding the entry of a rewritten chunk prints nothing. -/
theorem silent_addRewritten (j : Journal) (chunk : String) (report : RenderReport)
    (microseconds : Nat) : (j.addRewritten chunk report microseconds).Silent := by
  rw [addRewritten]
  split
  · exact fun _ => j.silent_add _
  · exact Silent.pure _

/-- Adding the entry of a refused chunk prints nothing. -/
theorem silent_addRefused (j : Journal) (chunk : String) (inputBytes : Nat) (e : RewriteError) :
    (j.addRefused chunk inputBytes e).Silent := by
  rw [addRefused]
  split
  · exact fun _ => j.silent_add _
  · exact Silent.pure _

end BundleHardening.Journal
