import BundleHardening.Proofs.File.Path
import BundleHardening.Proofs.Host.Trace
import BundleHardening.Settings.Layers

/-!
# Where the settings of a project are found

The search for the settings of a project climbs from a directory towards the root and ends at the first
directory that has them, or at the first top of a repository that does not.  It asks for the settings of a
directory before it asks whether a repository ends there, so that the settings at the top of a repository are
the last that can be found.  `Settings.findProjectFile_nearest` says so without the search: the directory that
is found is the deepest one with settings on the way up, and no repository ends below it.

What leads somewhere is for the host to say, and the law holds of all answers that it may give.
-/

set_option autoImplicit false

namespace BundleHardening.Settings

variable {there : Path → Bool} {start q d e : Path} {found : Option Path}

/-! ## Directories of projects -/

/-- Whether a directory is that of the project which another one belongs to: the deepest directory with
settings on the way up, such that no repository ends strictly below it. -/
structure IsProjectDirectory (there : Path → Bool) (start d : Path) : Prop where
  way : start.LeadsUpTo d
  settings : there (d.join projectName) = true
  deepest : ∀ e, start.LeadsUpTo e → there (e.join projectName) = true → e.depth ≤ d.depth
  inside : ∀ e, start.LeadsUpTo e → d.depth < e.depth → there (e.join repositoryName) = false

/-- Whether a directory is the top of the repository which another one belongs to: the deepest directory on
the way up at which a repository ends. -/
structure IsRepositoryTop (there : Path → Bool) (start top : Path) : Prop where
  way : start.LeadsUpTo top
  ends : there (top.join repositoryName) = true
  nearest : ∀ e, start.LeadsUpTo e → top.depth < e.depth → there (e.join repositoryName) = false

instance (there : Path → Bool) (start d : Path) : Decidable (IsProjectDirectory there start d) :=
  decidable_of_iff
    (start.LeadsUpTo d ∧ there (d.join projectName) = true ∧
      (∀ e ∈ start.ancestors, there (e.join projectName) = true → e.depth ≤ d.depth) ∧
      ∀ e ∈ start.ancestors, d.depth < e.depth → there (e.join repositoryName) = false)
    (by
      simp only [Path.mem_ancestors_iff]
      exact ⟨fun ⟨hway, hsettings, hdeepest, hinside⟩ => ⟨hway, hsettings, hdeepest, hinside⟩,
        fun h => ⟨h.way, h.settings, h.deepest, h.inside⟩⟩)

/-- Only one directory is that of the project. -/
theorem IsProjectDirectory.unique (hd : IsProjectDirectory there start d)
    (he : IsProjectDirectory there start e) (hstart : start.isAbsolute = true) : d = e :=
  hd.way.eq_of_depth_eq he.way hstart
    (Nat.le_antisymm (he.deepest d hd.way hd.settings) (hd.deepest e he.way he.settings))

/-- A file tells the directory on the way up that it lies in. -/
theorem join_projectName_inj (hd : start.LeadsUpTo d) (he : start.LeadsUpTo e) (hstart : start.isAbsolute = true)
    (h : d.join projectName = e.join projectName) : d = e := by
  have hnames := congrArg Path.names h
  rw [Path.names_join rfl, Path.names_join rfl, List.append_left_inj] at hnames
  exact hd.eq_of_depth_eq he hstart (congrArg List.length hnames)

/-! ## One step of the search -/

/-- A directory with settings is that of its own project. -/
theorem isProjectDirectory_self (hstart : start.isAbsolute = true)
    (hsettings : there (start.join projectName) = true) : IsProjectDirectory there start start where
  way := .refl start
  settings := hsettings
  deepest _ he _ := he.depth_le hstart
  inside _ he hdeeper := absurd (he.depth_le hstart) (Nat.not_le_of_lt hdeeper)

/-- From a directory without settings at which a repository ends, no project is found. -/
theorem not_isProjectDirectory_of_top (hstart : start.isAbsolute = true)
    (hsettings : there (start.join projectName) = false) (htop : there (start.join repositoryName) = true) :
    ¬IsProjectDirectory there start d := by
  intro h
  obtain rfl | hlt := h.way.eq_or_depth_lt hstart
  · simp [h.settings] at hsettings
  · simp [h.inside start (.refl start) hlt] at htop

/-- From the root without settings, no project is found. -/
theorem not_isProjectDirectory_of_root (hroot : start.parent? = none)
    (hsettings : there (start.join projectName) = false) : ¬IsProjectDirectory there start d := by
  intro h
  obtain rfl := (Path.leadsUpTo_iff_of_parent?_eq_none hroot).mp h.way
  simp [h.settings] at hsettings

/-- A directory without settings at which no repository ends belongs to the project of its parent. -/
theorem isProjectDirectory_iff_of_parent? (hq : start.parent? = some q)
    (hsettings : there (start.join projectName) = false) (htop : there (start.join repositoryName) = false) :
    IsProjectDirectory there start d ↔ IsProjectDirectory there q d := by
  have hway (e : Path) : start.LeadsUpTo e ↔ e = start ∨ q.LeadsUpTo e :=
    Path.leadsUpTo_iff_of_parent?_eq_some hq
  constructor
  · intro h
    have hne : d ≠ start := by
      rintro rfl
      simp [h.settings] at hsettings
    exact
      { way := ((hway d).mp h.way).resolve_left hne
        settings := h.settings
        deepest := fun e he => h.deepest e ((hway e).mpr (.inr he))
        inside := fun e he => h.inside e ((hway e).mpr (.inr he)) }
  · intro h
    refine ⟨(hway d).mpr (.inr h.way), h.settings, fun e he hthere => ?_, fun e he hdeeper => ?_⟩
    · obtain rfl | he := (hway e).mp he
      · simp [hthere] at hsettings
      · exact h.deepest e he hthere
    · obtain rfl | he := (hway e).mp he
      · exact htop
      · exact h.inside e he hdeeper

/-! ## The search -/

/-- The search asks a directory for settings, then whether a repository ends there, and goes on with the
parent. -/
theorem findProjectFile_eq (start : Path) :
    findProjectFile start =
      Program.isThere (start.join projectName) fun settings =>
        if settings then .done (some (start.join projectName))
        else
          Program.isThere (start.join repositoryName) fun top =>
            if top then .done none
            else
              match start.parent? with
              | none => .done none
              | some q => findProjectFile q := by
  rw [findProjectFile, Path.ancestors]
  split
  · next h => simp only [h]; rfl
  · next q h => simp only [h]; rfl

/-- Whether a search that starts in a directory may end so: with the settings of the project, or with nothing
where there is no project. -/
inductive IsAnswer (there : Path → Bool) (start : Path) : Option Path → Prop where
  | found {d : Path} (h : IsProjectDirectory there start d) : IsAnswer there start (some (d.join projectName))
  | nothing (h : ∀ d, ¬IsProjectDirectory there start d) : IsAnswer there start none

namespace IsAnswer

/-- What is found is the file of the project directory. -/
theorem eq_some_iff (h : IsAnswer there start found) (hstart : start.isAbsolute = true)
    (hd : start.LeadsUpTo d) : found = some (d.join projectName) ↔ IsProjectDirectory there start d := by
  constructor
  · rintro rfl
    generalize hfile : some (d.join projectName) = file at h
    cases h with
    | @found e he =>
      rwa [join_projectName_inj hd he.way hstart (Option.some.inj hfile)]
    | nothing => cases hfile
  · intro hproject
    cases h with
    | found he => rw [he.unique hproject hstart]
    | nothing h => exact absurd hproject (h d)

/-- Nothing is found where there is no project directory. -/
theorem eq_none_iff (h : IsAnswer there start found) :
    found = none ↔ ¬∃ d, IsProjectDirectory there start d := by
  cases h with
  | found h => simpa using ⟨_, h⟩
  | nothing h => simpa using h

/-- What a search from the parent ends with is right for a directory that the search goes past. -/
theorem of_parent? (h : IsAnswer there q found) (hq : start.parent? = some q)
    (hsettings : there (start.join projectName) = false) (htop : there (start.join repositoryName) = false) :
    IsAnswer there start found := by
  have hiff (d : Path) : IsProjectDirectory there start d ↔ IsProjectDirectory there q d :=
    isProjectDirectory_iff_of_parent? hq hsettings htop
  cases h with
  | found h => exact .found ((hiff _).mpr h)
  | nothing h => exact .nothing fun d hd => h d ((hiff d).mp hd)

end IsAnswer

/-- Two questions take the search past a directory without settings. -/
theorem asks_of_no_settings {asked : Nat} (hsettings : there (start.join projectName) = false)
    (h : Program.Asks there
      (if there (start.join repositoryName) then .done none
      else
        match start.parent? with
        | none => .done none
        | some q => findProjectFile q) asked found) :
    (findProjectFile start).Asks there (asked + 2) found := by
  rw [findProjectFile_eq]
  refine .isThere ?_
  rw [hsettings]
  exact .isThere h

/-- The search ends with the right answer, after two questions at most for each directory on the way up. -/
theorem exists_asks_findProjectFile (there : Path → Bool) (start : Path) (hstart : start.isAbsolute = true) :
    ∃ (asked : Nat) (found : Option Path), (findProjectFile start).Asks there asked found ∧
      asked ≤ 2 * (start.depth + 1) ∧ IsAnswer there start found := by
  cases hsettings : there (start.join projectName) with
  | true =>
    refine ⟨1, some (start.join projectName), ?_, by omega, .found (isProjectDirectory_self hstart hsettings)⟩
    rw [findProjectFile_eq]
    refine .isThere ?_
    rw [hsettings]
    exact .done _
  | false =>
    cases htop : there (start.join repositoryName) with
    | true =>
      refine ⟨2, none, asks_of_no_settings hsettings ?_, by omega,
        .nothing fun d => not_isProjectDirectory_of_top hstart hsettings htop⟩
      rw [htop]
      exact .done none
    | false =>
      cases hq : start.parent? with
      | none =>
        refine ⟨2, none, asks_of_no_settings hsettings ?_, by omega,
          .nothing fun d => not_isProjectDirectory_of_root hq hsettings⟩
        rw [htop, hq]
        exact .done none
      | some q =>
        obtain ⟨asked, found, hasks, hle, hanswer⟩ :=
          exists_asks_findProjectFile there q (Path.names_of_parent? hstart hq).1
        have hdepth := Path.depth_of_parent? hstart hq
        refine ⟨asked + 2, found, asks_of_no_settings hsettings ?_, by omega,
          hanswer.of_parent? hq hsettings htop⟩
        rw [htop, hq]
        exact hasks
termination_by start.length
decreasing_by exact Path.length_lt_of_parent? hq

/-! ## The law -/

/-- The search for the settings of a project, from an absolute path and on every host, ends after two
questions at most for each directory on the way up, and with nothing done but asking.  It finds the settings of
a directory if and only if that is the directory of the project, and it finds nothing if and only if there is
no such directory.  So it never finds settings above the top of the repository, and it finds those at the top
where there are none below. -/
theorem findProjectFile_nearest {start : Path} (hstart : start.isAbsolute = true) (there : Path → Bool) :
    ∃ (asked : Nat) (found : Option Path),
      (findProjectFile start).Asks there asked found ∧ asked ≤ 2 * (start.depth + 1) ∧
      (∀ m : Machine, (∀ p, m.files.leadsSomewhere m.directory p = there p) →
        (findProjectFile start).run m = (m, found)) ∧
      (∀ d, start.LeadsUpTo d →
        (found = some (d.join projectName) ↔ IsProjectDirectory there start d)) ∧
      (found = none ↔ ¬∃ d, IsProjectDirectory there start d) ∧
      ∀ top, IsRepositoryTop there start top →
        (∀ d, start.LeadsUpTo d → d.depth < top.depth → found ≠ some (d.join projectName)) ∧
        (there (top.join projectName) = true →
          (∀ e, start.LeadsUpTo e → top.depth < e.depth → there (e.join projectName) = false) →
          found = some (top.join projectName)) := by
  obtain ⟨asked, found, hasks, hle, hanswer⟩ := exists_asks_findProjectFile there start hstart
  refine ⟨asked, found, hasks, hle, fun m hm => hasks.run hm, fun d hd => hanswer.eq_some_iff hstart hd,
    hanswer.eq_none_iff, fun top htop => ⟨fun d hd habove hfound => ?_, fun hsettings hbelow => ?_⟩⟩
  · have hproject := (hanswer.eq_some_iff hstart hd).mp hfound
    have hends := hproject.inside top htop.way habove
    simp [htop.ends] at hends
  · refine (hanswer.eq_some_iff hstart htop.way).mpr ⟨htop.way, hsettings, fun e he hthere => ?_, htop.nearest⟩
    by_contra hdeeper
    have hnone := hbelow e he (Nat.lt_of_not_le hdeeper)
    simp [hthere] at hnone

section Sample

/-- Files with settings at the root and at the top of a repository. -/
def projectTree : FileTree where
  entries :=
    [([".bpg.toml".toList], .file .empty), (["repo".toList], .directory),
      ([".git".toList, "repo".toList], .directory), ([".bpg.toml".toList, "repo".toList], .file .empty),
      (["app".toList, "repo".toList], .directory)]

/-- From a directory of the repository, the settings at its top are found, and not those at the root. -/
theorem findProjectFile_repository :
    Path.isAbsolute "/repo/app".toList = true ∧
      (findProjectFile "/repo/app".toList).run { files := projectTree } =
        ({ files := projectTree }, some "/repo/.bpg.toml".toList) := by
  have hstart : Path.isAbsolute "/repo/app".toList = true := by decide
  obtain ⟨-, found, -, -, hrun, hfound, -, -⟩ :=
    findProjectFile_nearest hstart (projectTree.leadsSomewhere [])
  have hway (e : Path) : Path.LeadsUpTo "/repo/app".toList e ↔
      e = "/repo/app".toList ∨ e = "/repo".toList ∨ e = "/".toList := by
    rw [Path.leadsUpTo_iff_of_parent?_eq_some (q := "/repo".toList) (by decide),
      Path.leadsUpTo_iff_of_parent?_eq_some (q := "/".toList) (by decide),
      Path.leadsUpTo_iff_of_parent?_eq_none (by decide)]
  have hproject : IsProjectDirectory (projectTree.leadsSomewhere []) "/repo/app".toList "/repo".toList := by
    refine ⟨(hway _).mpr (by decide), by decide, fun e he => ?_, fun e he => ?_⟩
    · obtain rfl | rfl | rfl := (hway e).mp he <;> decide
    · obtain rfl | rfl | rfl := (hway e).mp he <;> decide
  refine ⟨hstart, (hrun { files := projectTree } fun _ => rfl).trans ?_⟩
  rw [(hfound _ hproject.way).mpr hproject]
  rfl

end Sample

end BundleHardening.Settings
