import BundleHardening.Proofs.Host.Files

/-!
# What a program leaves alone

A run takes nothing away: directories and files stay, and a path that opened a file goes on to open it
(`Program.grown_run`).  A program that only writes to certain paths leaves every other file as it is: at a
location that none of these paths opens in the end stands the file that stood there before, or again none
(`Program.Writes.spares_run`).
-/

set_option autoImplicit false

namespace BundleHardening

/-! ## Trees that keep their files -/

namespace FileTree

variable {t u v : FileTree} {directory l : Location} {p : Path} {old content : ByteArray}

/-- Whether a tree has grown into another one, in which every file is still a file. -/
structure Keeps (t u : FileTree) : Prop extends Within t u where
  file : ∀ l content, t.node? l = some (.file content) → ∃ content', u.node? l = some (.file content')

/-- Whether two trees hold the same file at a location, or both none. -/
def SameFileAt (l : Location) (t u : FileTree) : Prop :=
  ∀ content, u.node? l = some (.file content) ↔ t.node? l = some (.file content)

/-- Whether a tree comes from another one by writing to a file. -/
def Wrote (t : FileTree) (directory : Location) (p : Path) (u : FileTree) : Prop :=
  ∃ l old new, t.openFile directory p = .ok (l, old) ∧ u = t.put l (.file new)

namespace Keeps

theorem refl (t : FileTree) : t.Keeps t :=
  ⟨.refl t, fun _ content h => ⟨content, h⟩⟩

theorem trans (htu : t.Keeps u) (huv : u.Keeps v) : t.Keeps v where
  toWithin := htu.toWithin.trans huv.toWithin
  file l content h := by
    obtain ⟨content', h'⟩ := htu.file l content h
    exact huv.file l content' h'

/-- A path that opens a file goes on to open it. -/
theorem openFile (h : t.Keeps u) (hopen : t.openFile directory p = .ok (l, old))
    (hfile : t.node? l = some (.file content)) : ∃ old', u.openFile directory p = .ok (l, old') := by
  obtain ⟨o, hopening, hclosed, rfl, -, hunlocked, -⟩ := of_openFile hopen
  obtain ⟨content', hstands⟩ := h.file _ content hfile
  refine ⟨content', ?_⟩
  rw [FileTree.openFile, h.toWithin.opening? hopening]
  dsimp only [bind, Except.bind]
  rw [if_neg (by simp [hclosed]), hstands]
  exact if_neg (h.locked ▸ hunlocked)

end Keeps

namespace SameFileAt

theorem refl (t : FileTree) : SameFileAt l t t :=
  fun _ => Iff.rfl

theorem trans (htu : SameFileAt l t u) (huv : SameFileAt l u v) : SameFileAt l t v :=
  fun content => (huv content).trans (htu content)

end SameFileAt

theorem wrote_write (h : t.write directory p content = .ok u) : t.Wrote directory p u := by
  rw [write] at h
  cases hopen : t.openFile directory p with
  | error e => rw [hopen] at h; cases h
  | ok opened => rw [hopen] at h; cases h; exact ⟨_, _, _, hopen, rfl⟩

theorem wrote_append (h : t.append directory p content = .ok u) : t.Wrote directory p u := by
  rw [append] at h
  cases hopen : t.openFile directory p with
  | error e => rw [hopen] at h; cases h
  | ok opened => rw [hopen] at h; cases h; exact ⟨_, _, _, hopen, rfl⟩

/-- Writing to a file keeps all files. -/
theorem Wrote.keeps (h : t.Wrote directory p u) : t.Keeps u := by
  obtain ⟨l, old, new, hopen, rfl⟩ := h
  obtain ⟨o, -, -, rfl, hdirectory, -⟩ := of_openFile hopen
  refine ⟨.put (List.cons_ne_nil _ _) (.inr hdirectory), fun k content hk => ?_⟩
  by_cases heq : k = o.name :: o.directory
  · exact ⟨new, by rw [heq, node?_put_self (List.cons_ne_nil _ _)]⟩
  · exact ⟨content, by rw [node?_put_of_ne heq, hk]⟩

/-- A directory is created where no file stands, and leaves every file as it is. -/
theorem keeps_makeDirectory (h : t.makeDirectory directory p = .ok u) :
    t.Keeps u ∧ ∀ l, SameFileAt l t u := by
  obtain ⟨k, hk, hnone, rfl⟩ := of_makeDirectory h
  have hsame (l : Location) : SameFileAt l t (t.put k .directory) := fun content => by
    by_cases heq : l = k
    · rw [heq, node?_put_self hk, hnone]
      exact iff_of_false nofun nofun
    · rw [node?_put_of_ne heq]
  exact ⟨⟨.put hk (.inl rfl), fun l content hfile => ⟨content, (hsame l content).mpr hfile⟩⟩, hsame⟩

/-- Creating a directory and those above it leaves every file as it is. -/
theorem keeps_makeDirectories (t : FileTree) (directory : Location) (p : Path) :
    t.Keeps (t.makeDirectories directory p).1 ∧
      ∀ l, SameFileAt l t (t.makeDirectories directory p).1 :=
  related_makeDirectories (R := fun t u => t.Keeps u ∧ ∀ l, SameFileAt l t u)
    (fun t => ⟨.refl t, fun _ => .refl t⟩)
    (fun htu huv => ⟨htu.1.trans huv.1, fun l => (htu.2 l).trans (huv.2 l)⟩) keeps_makeDirectory t p

end FileTree

/-! ## What a run keeps -/

namespace Machine

variable {m before middle after : Machine} {p : Path} {l : Location} {content bytes : ByteArray}
  {r : Except FileError FileTree}

/-- Whether a path opens a file at a location for writing. -/
def OpensAt (m : Machine) (p : Path) (l : Location) : Prop :=
  ∃ old, m.files.openFile m.directory p = .ok (l, old)

/-- Whether a machine works in the same directory as another one, has the same faults, and kept all its
files. -/
structure Grown (before after : Machine) : Prop where
  directory : after.directory = before.directory
  fileFault? : after.fileFault? = before.fileFault?
  outputFault? : after.outputFault? = before.outputFault?
  files : before.files.Keeps after.files

namespace Grown

theorem refl (m : Machine) : m.Grown m :=
  ⟨rfl, rfl, rfl, .refl _⟩

theorem trans (h : before.Grown middle) (h' : middle.Grown after) : before.Grown after where
  directory := h'.directory.trans h.directory
  fileFault? := h'.fileFault?.trans h.fileFault?
  outputFault? := h'.outputFault?.trans h.outputFault?
  files := h.files.trans h'.files

/-- A file that stands open stays open. -/
theorem opensAt (h : before.Grown after) (hopens : before.Opens p l content) : after.OpensAt p l := by
  rw [OpensAt, h.directory]
  exact h.files.openFile hopens.opens hopens.holds

end Grown

/-- A machine on which a file was written to, if it could be opened, has grown. -/
theorem grown_changed (h : ∀ t, r = .ok t → m.files.Wrote m.directory p t) : m.Grown (m.changed r).1 := by
  cases r with
  | error e => exact .refl m
  | ok t => exact ⟨rfl, rfl, rfl, (h t rfl).keeps⟩

/-- Writing to a file leaves those alone that its path does not open later on. -/
theorem sameFileAt_changed (h : ∀ t, r = .ok t → m.files.Wrote m.directory p t)
    (hgrown : (m.changed r).1.Grown after) (hl : ¬ after.OpensAt p l) :
    FileTree.SameFileAt l m.files (m.changed r).1.files := by
  cases r with
  | error e => exact .refl _
  | ok t =>
    obtain ⟨k, old, new, hopen, rfl⟩ := h t rfl
    have hne : l ≠ k := by
      rintro rfl
      exact hl (hgrown.opensAt (opens_withFile hopen new))
    intro content
    show (m.files.put k _).node? l = _ ↔ _
    rw [FileTree.node?_put_of_ne hne]

/-- A machine on which a file was written anew, as far as it took the bytes, has grown. -/
theorem grown_written (m : Machine) (p : Path) (content : ByteArray) : m.Grown (m.written p content).1 := by
  obtain ⟨bytes, hwritten⟩ := m.exists_written_eq p content
  rw [hwritten]
  exact grown_changed fun _ => FileTree.wrote_write

/-- Writing a file anew leaves those alone that its path does not open later on. -/
theorem sameFileAt_written (hgrown : (m.written p bytes).1.Grown after) (hl : ¬ after.OpensAt p l) :
    FileTree.SameFileAt l m.files (m.written p bytes).1.files := by
  obtain ⟨taken, hwritten⟩ := m.exists_written_eq p bytes
  rw [hwritten] at hgrown ⊢
  exact sameFileAt_changed (fun _ => FileTree.wrote_write) hgrown hl

/-- Printing changes nothing but what was printed. -/
theorem grown_printed (m : Machine) (channel : Channel) (t : Text) :
    m.Grown (m.printed channel t) ∧ (m.printed channel t).files = m.files := by
  cases channel <;> exact ⟨⟨rfl, rfl, rfl, .refl _⟩, rfl⟩

/-- Printing on the output, also where it breaks off, changes nothing but what was printed. -/
theorem grown_outputWritten (m : Machine) (t : Text) :
    m.Grown (m.outputWritten t).1 ∧ (m.outputWritten t).1.files = m.files := by
  rw [outputWritten]
  cases m.outputFault? t <;> exact m.grown_printed .output _

end Machine

namespace Program

variable {α : Type}

/-- Directories and files stay in a run. -/
theorem grown_run (p : Program α) (m : Machine) : m.Grown (p.run m).1 := by
  induction p generalizing m with
  | done a => exact .refl m
  | readFile p next ih => exact ih _ m
  | writeFile p content next ih => exact (m.grown_written p content).trans (ih _ _)
  | appendFile p content next ih =>
    exact (Machine.grown_changed fun _ => FileTree.wrote_append).trans (ih _ _)
  | makeDirectories p next ih =>
    have hmade : m.Grown { m with files := (m.files.makeDirectories m.directory p).1 } :=
      ⟨rfl, rfl, rfl, (m.files.keeps_makeDirectories m.directory p).1⟩
    exact hmade.trans (ih _ _)
  | isThere p next ih => exact ih _ m
  | readInput most next ih => exact ih _ m
  | print channel t next ih => exact (m.grown_printed channel t).1.trans (ih _)
  | writeOutput t next ih => exact (m.grown_outputWritten t).1.trans (ih _ _)
  | seconds next ih => exact ih _ m
  | microseconds next ih => exact ih _ m

/-! ## What a run leaves alone -/

/-- Whether a program, whatever its host answers, writes only to files whose paths have a property, and ends
only in values that have another. -/
def Writes (P : Path → Prop) (Q : α → Prop) : Program α → Prop
  | done a => Q a
  | readFile _ next => ∀ r, (next r).Writes P Q
  | writeFile p _ next => P p ∧ ∀ r, (next r).Writes P Q
  | appendFile p _ next => P p ∧ ∀ r, (next r).Writes P Q
  | makeDirectories _ next => ∀ r, (next r).Writes P Q
  | isThere _ next => ∀ r, (next r).Writes P Q
  | readInput _ next => ∀ r, (next r).Writes P Q
  | print _ _ next => next.Writes P Q
  | writeOutput _ next => ∀ r, (next r).Writes P Q
  | seconds next => ∀ r, (next r).Writes P Q
  | microseconds next => ∀ r, (next r).Writes P Q

end Program

/-- Whether the files that none of certain paths opens in the end are what they were. -/
def Machine.Spares (P : Path → Prop) (before after : Machine) : Prop :=
  ∀ l, (∀ p, P p → ¬ after.OpensAt p l) → FileTree.SameFileAt l before.files after.files

namespace Program.Writes

variable {α β : Type} {p : Program α} {f : α → Program β} {P : Path → Prop} {Q : α → Prop}
  {R : β → Prop}

/-- Of two programs the second one begins with a value that the first one can end in. -/
theorem andThen (hp : p.Writes P Q) (hf : ∀ a, Q a → (f a).Writes P R) : (p.andThen f).Writes P R := by
  induction p with
  | done a => exact hf a hp
  | print channel t next ih => exact ih hp
  | writeOutput t next ih => exact fun r => ih r (hp r)
  | writeFile p content next ih => exact ⟨hp.1, fun r => ih r (hp.2 r)⟩
  | appendFile p content next ih => exact ⟨hp.1, fun r => ih r (hp.2 r)⟩
  | readFile p next ih => exact fun r => ih r (hp r)
  | makeDirectories p next ih => exact fun r => ih r (hp r)
  | isThere p next ih => exact fun r => ih r (hp r)
  | readInput most next ih => exact fun r => ih r (hp r)
  | seconds next ih => exact fun r => ih r (hp r)
  | microseconds next ih => exact fun r => ih r (hp r)

/-- A run leaves the files alone that none of the paths opens. -/
theorem spares_run (h : p.Writes P Q) (m : Machine) : m.Spares P (p.run m).1 := by
  intro l hl
  induction p generalizing m with
  | done a => exact .refl _
  | print channel t next ih =>
    rw [← (m.grown_printed channel t).2]
    exact ih h _ hl
  | writeOutput t next ih =>
    rw [← (m.grown_outputWritten t).2]
    exact ih _ (h _) _ hl
  | writeFile p content next ih =>
    -- what is written here stays open up to the end, so that it does not stand at the location
    have hwritten : FileTree.SameFileAt l m.files (m.written p content).1.files :=
      Machine.sameFileAt_written (grown_run _ _) (hl p h.1)
    exact hwritten.trans (ih _ (h.2 _) _ hl)
  | appendFile p content next ih =>
    have hwritten := Machine.sameFileAt_changed (fun _ => FileTree.wrote_append) (grown_run _ _) (hl p h.1)
    exact hwritten.trans (ih _ (h.2 _) _ hl)
  | makeDirectories p next ih =>
    have hmade := (m.files.keeps_makeDirectories m.directory p).2 l
    exact hmade.trans (ih _ (h _) _ hl)
  | readFile p next ih => exact ih _ (h _) _ hl
  | isThere p next ih => exact ih _ (h _) _ hl
  | readInput most next ih => exact ih _ (h _) _ hl
  | seconds next ih => exact ih _ (h _) _ hl
  | microseconds next ih => exact ih _ (h _) _ hl

end Program.Writes

end BundleHardening
