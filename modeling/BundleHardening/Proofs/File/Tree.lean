import BundleHardening.File.Tree

/-!
# How a file tree grows

Creating directories and writing files takes nothing away: what was a directory stays one, and a location
that something stood at stays occupied.  A path that opens a file therefore opens it again later on, at the
same place (`openFile_put`).
-/

set_option autoImplicit false

namespace BundleHardening.FileTree

variable {t u v : FileTree} {directory k l : Location} {n : FileNode} {p : Path}

/-! ## What stands at a location -/

theorem lookup_putIn_self (entries : List (Location × FileNode)) :
    (putIn l n entries).lookup l = some n := by
  induction entries with
  | nil => simp [putIn]
  | cons e entries ih =>
    rw [putIn]
    split
    · exact List.lookup_cons_self
    · next hne =>
      rw [List.lookup_cons, beq_false_of_ne (Ne.symm hne)]
      exact ih

theorem lookup_putIn_of_ne (h : k ≠ l) (entries : List (Location × FileNode)) :
    (putIn l n entries).lookup k = entries.lookup k := by
  induction entries with
  | nil => rw [putIn, List.lookup_cons, beq_false_of_ne h]
  | cons e entries ih =>
    rw [putIn, List.lookup_cons]
    split
    · next heq => rw [List.lookup_cons, heq, beq_false_of_ne h]
    · rw [List.lookup_cons, ih]

/-- A node that is put at a location stands there. -/
theorem node?_put_self (h : l ≠ []) : (t.put l n).node? l = some n := by
  obtain ⟨name, above, rfl⟩ := List.exists_cons_of_ne_nil h
  exact lookup_putIn_self t.entries

/-- A node that is put at a location leaves the others as they are. -/
theorem node?_put_of_ne (h : k ≠ l) : (t.put l n).node? k = t.node? k := by
  cases k with
  | nil => rfl
  | cons name above => exact lookup_putIn_of_ne h t.entries

/-- What the file at a location holds: nothing, if there is none. -/
def contentAt (t : FileTree) (l : Location) : ByteArray :=
  match t.node? l with
  | some (.file content) => content
  | _ => .empty

theorem contentAt_of_file {content : ByteArray} (h : t.node? l = some (.file content)) :
    t.contentAt l = content := by
  rw [contentAt, h]

theorem contentAt_put_of_ne (h : k ≠ l) : (t.put l n).contentAt k = t.contentAt k := by
  rw [contentAt, node?_put_of_ne h, contentAt]

/-! ## Growth -/

/-- Whether a tree has all directories of another, something wherever the other has something, and the same
locations locked. -/
structure Within (t u : FileTree) : Prop where
  directory : ∀ l, t.node? l = some .directory → u.node? l = some .directory
  occupied : ∀ l, (t.node? l).isSome = true → (u.node? l).isSome = true
  locked : u.locked = t.locked

namespace Within

theorem refl (t : FileTree) : t.Within t :=
  ⟨fun _ h => h, fun _ h => h, rfl⟩

theorem trans (htu : t.Within u) (huv : u.Within v) : t.Within v where
  directory l h := huv.directory l (htu.directory l h)
  occupied l h := huv.occupied l (htu.occupied l h)
  locked := huv.locked.trans htu.locked

/-- A node takes no directory away, if it is put where none stands or is one itself. -/
theorem put (hl : l ≠ []) (h : n = .directory ∨ t.node? l ≠ some .directory) : t.Within (t.put l n) where
  directory k hk := by
    by_cases hkl : k = l
    · subst hkl
      obtain rfl | hne := h
      · exact node?_put_self hl
      · exact absurd hk hne
    · rw [node?_put_of_ne hkl, hk]
  occupied k hk := by
    by_cases hkl : k = l
    · subst hkl
      rw [node?_put_self hl]
      rfl
    · rw [node?_put_of_ne hkl, hk]
  locked := rfl

/-- A name that leads somewhere leads to the same location in a tree that has grown. -/
theorem step (h : t.Within u) {name : Text} (hstep : t.step l name = .ok k) : u.step l name = .ok k := by
  rw [FileTree.step] at hstep
  split at hstep
  · cases hstep
  · cases hstep
  · next hdirectory =>
    rw [FileTree.step, h.directory l hdirectory]
    dsimp only
    split at hstep
    · next hidle => rwa [if_pos hidle]
    · next hidle =>
      rw [if_neg hidle]
      split at hstep
      · next hup => rwa [if_pos hup]
      · next hup =>
        rw [if_neg hup]
        split at hstep
        · cases hstep
        · next hlong =>
          rw [if_neg hlong]
          split at hstep
          · next hthere => rwa [if_pos (h.occupied _ hthere)]
          · cases hstep

/-- Names that lead somewhere lead to the same location in a tree that has grown. -/
theorem follow (h : t.Within u) {names : List Text} (hfollow : t.follow l names = .ok k) :
    u.follow l names = .ok k := by
  induction names generalizing l with
  | nil => exact hfollow
  | cons name names ih =>
    rw [FileTree.follow] at hfollow ⊢
    cases hstep : t.step l name with
    | error e => rw [hstep] at hfollow; cases hfollow
    | ok next =>
      rw [hstep] at hfollow
      rw [h.step hstep]
      exact ih hfollow

/-- The place of a new entry stays the same in a tree that has grown. -/
theorem opening? (h : t.Within u) {o : Option Opening} (hopening : t.opening? directory p = .ok o) :
    u.opening? directory p = .ok o := by
  rw [FileTree.opening?] at hopening ⊢
  cases hroute : route directory p with
  | error e => rw [hroute] at hopening; cases hopening
  | ok r =>
    rw [hroute] at hopening
    dsimp only [bind, Except.bind] at hopening ⊢
    split at hopening
    · exact hopening
    · next last before hlast =>
      cases hfollow : t.follow r.start before.reverse with
      | error e => rw [hfollow] at hopening; cases hopening
      | ok above =>
        rw [hfollow] at hopening
        rw [h.follow hfollow]
        dsimp only at hopening ⊢
        split at hopening
        · cases hopening
        · next hdirectory =>
          have hstands : t.node? above = some .directory := by simpa using hdirectory
          rw [if_neg (by simp [h.directory _ hstands])]
          exact hopening

end Within

/-! ## Opening a file -/

/-- A file is opened at a location of its own, where no directory stands and which is not locked. -/
theorem of_openFile {old : ByteArray} (h : t.openFile directory p = .ok (l, old)) :
    ∃ o : Opening, t.opening? directory p = .ok (some o) ∧ o.closed = false ∧ l = o.name :: o.directory ∧
      t.node? l ≠ some .directory ∧ l ∉ t.locked ∧ old = t.contentAt l := by
  rw [openFile] at h
  cases hopening : t.opening? directory p with
  | error e => rw [hopening] at h; cases h
  | ok r =>
    rw [hopening] at h
    cases r with
    | none => cases h
    | some o =>
      dsimp only [bind, Except.bind] at h
      split at h
      · cases h
      · next hclosed =>
        refine ⟨o, rfl, by simpa using hclosed, ?_⟩
        split at h
        · cases h
        · next content hfile =>
          split at h
          · cases h
          · next hunlocked =>
            cases h
            exact ⟨rfl, by simp [hfile], hunlocked, (contentAt_of_file hfile).symm⟩
        · next hnone =>
          split at h
          · cases h
          · split at h
            · cases h
            · next hunlocked =>
              cases h
              exact ⟨rfl, by simp [hnone], hunlocked, by rw [contentAt, hnone]⟩

/-- A file that was opened is opened at the same location once it is written. -/
theorem openFile_put {old content : ByteArray} (h : t.openFile directory p = .ok (l, old)) :
    (t.put l (.file content)).openFile directory p = .ok (l, content) := by
  obtain ⟨o, hopening, hclosed, rfl, hdirectory, hunlocked, -⟩ := of_openFile h
  have hgrown : t.Within (t.put (o.name :: o.directory) (.file content)) :=
    .put (List.cons_ne_nil _ _) (.inr hdirectory)
  rw [openFile, hgrown.opening? hopening]
  dsimp only [bind, Except.bind]
  rw [if_neg (by simp [hclosed]), node?_put_self (List.cons_ne_nil _ _)]
  exact if_neg hunlocked

/-- What is written anew takes the place of what the file held. -/
theorem write_of_openFile {old : ByteArray} (h : t.openFile directory p = .ok (l, old))
    (content : ByteArray) : t.write directory p content = .ok (t.put l (.file content)) := by
  rw [write, h]
  rfl

/-- What is written behind a file stands behind what it held. -/
theorem append_of_openFile {old : ByteArray} (h : t.openFile directory p = .ok (l, old))
    (content : ByteArray) : t.append directory p content = .ok (t.put l (.file (old ++ content))) := by
  rw [append, h]
  rfl

/-! ## Creating directories -/

/-- A directory is created where nothing stands. -/
theorem of_makeDirectory (h : t.makeDirectory directory p = .ok u) :
    ∃ l, l ≠ [] ∧ t.node? l = none ∧ u = t.put l .directory := by
  rw [makeDirectory] at h
  cases hopening : t.opening? directory p with
  | error e => rw [hopening] at h; cases h
  | ok r =>
    rw [hopening] at h
    cases r with
    | none => cases h
    | some o =>
      dsimp only [bind, Except.bind] at h
      split at h
      · cases h
      · next hnone =>
        split at h
        · cases h
        · split at h
          · cases h
          · cases h
            exact ⟨o.name :: o.directory, List.cons_ne_nil _ _, by simpa using hnone, rfl⟩

/-- Whether a tree is another one with directories added: it has grown, and every file holds what it held. -/
structure Furnished (t u : FileTree) : Prop where
  within : t.Within u
  content : ∀ l, u.contentAt l = t.contentAt l

namespace Furnished

theorem refl (t : FileTree) : t.Furnished t :=
  ⟨.refl t, fun _ => rfl⟩

theorem trans (htu : t.Furnished u) (huv : u.Furnished v) : t.Furnished v :=
  ⟨htu.within.trans huv.within, fun l => (huv.content l).trans (htu.content l)⟩

end Furnished

theorem furnished_makeDirectory (h : t.makeDirectory directory p = .ok u) : t.Furnished u := by
  obtain ⟨l, hl, hnone, rfl⟩ := of_makeDirectory h
  refine ⟨.put hl (.inl rfl), fun k => ?_⟩
  by_cases hk : k = l
  · rw [hk, contentAt, node?_put_self hl, contentAt, hnone]
  · exact contentAt_put_of_ne hk

/-- Creating a directory and those above it relates a tree to what becomes of it, if creating one directory
does so in every tree. -/
theorem related_makeDirectories {R : FileTree → FileTree → Prop} (refl : ∀ t, R t t)
    (trans : ∀ {t u v}, R t u → R u v → R t v)
    (make : ∀ {t u p}, t.makeDirectory directory p = .ok u → R t u) (t : FileTree) (p : Path) :
    R t (t.makeDirectories directory p).1 := by
  have last (t : FileTree) (p : Path) : R t (t.makeLast directory p).1 := by
    rw [makeLast]
    split
    · next h => exact make h
    · split <;> exact refl t
  fun_induction makeDirectories t directory p with
  | case1 => exact refl _
  | case2 _ _ _ h => exact make h
  | case3 => exact refl _
  | case4 _ _ _ _ _ _ _ hrest ih => rw [hrest] at ih; exact ih
  | case5 _ _ _ _ _ _ hrest ih => rw [hrest] at ih; exact trans ih (last _ _)
  | case6 => exact refl _
  | case7 => exact refl _

/-- Creating a directory and those above it only adds directories. -/
theorem furnished_makeDirectories (t : FileTree) (directory : Location) (p : Path) :
    t.Furnished (t.makeDirectories directory p).1 :=
  related_makeDirectories Furnished.refl Furnished.trans furnished_makeDirectory t p

end BundleHardening.FileTree
