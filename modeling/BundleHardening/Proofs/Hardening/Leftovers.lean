import BundleHardening.Proofs.Hardening.Acceptance

/-!
# What the runtime rules leave over

Each rule goes once through the text and does not look again at what it has put in.  Three of the five
exact texts can therefore come back: two of them where what replaces them meets the text around it
(`sources`), and the feature test where the tag inside it comes back behind the rest of the test.  The
other two are gone for good.

`infix_apply_iff` tells from the text that the rules were given which of the exact texts are left.
-/

set_option autoImplicit false

namespace BundleHardening.Bootstrap

variable {t out : Text} {ctx : Context} {i : Nat}

/-- What the rules give is what the replacements leave of the guarded text. -/
theorem eq_replaceEach_of_apply (h : (rules.apply t ctx).result = .ok out) :
    out = Text.replaceEach replacements (ObjectLiteral.guard t) := by
  rw [result_apply] at h
  split at h
  · cases h
    exact all_steps t
  · cases h

/-- A call of `Object.defineProperty` on an `Object` of another one. -/
def nestedDefineProperty : Text :=
  "Object.".toList ++ defineProperty

/-- The tag of a `Symbol` of another one. -/
def nestedTag : Text :=
  "Symbol.".toList ++ toStringTag

/-- A tag whose safe copy begins another one. -/
def joinedTag : Text :=
  toStringTag ++ "bol.toStringTag".toList

/-- Two tags whose safe copies begin and end another one. -/
def joinedTags : Text :=
  toStringTag ++ ("bol.".toList ++ toStringTag)

/-- The feature test with a tag of a `Symbol` of another one. -/
def nestedTest : Text :=
  testLead ++ nestedTag

/-- What each of the exact texts comes back from. -/
def sources : List (List Text) :=
  [[], [nestedTag, joinedTag, joinedTags], [nestedDefineProperty], [], []]

theorem comesBack_sources : ∀ i < 5, ∀ pair ∈ replacements[i]?, ∀ found ∈ sources[i]?,
    Text.ComesBack pair.1 pair.2 found := by
  decide +kernel

section Own

variable {pair : Text × Text} {found : List Text}

/-- What is replaced behind its turn spares an exact text, the tag in the feature test excepted. -/
theorem spares_of_mem_drop (hpair : replacements[i]? = some pair) {count : Nat} (hi : i < count)
    (hcount : 1 < count) {later : Text × Text} (h : later ∈ replacements.drop count) :
    Text.Spares later pair.1 := by
  obtain ⟨j, hj⟩ := List.getElem?_of_mem h
  rw [List.getElem?_drop] at hj
  have hlt : count + j < 5 := (List.getElem?_eq_some_iff.mp hj).1
  exact spares_replacements (count + j) hlt i (by omega) (by omega) (by omega) later hj pair hpair

/-- Its own replacement leaves an exact text where one of its sources was. -/
theorem infix_replaceEach_take_succ_iff (hpair : replacements[i]? = some pair)
    (hfound : sources[i]? = some found) (t : Text) :
    pair.1 <:+: Text.replaceEach (replacements.take (i + 1)) t ↔
      ∃ source ∈ found, source <:+: Text.replaceEach (replacements.take i) t := by
  have hlt : i < 5 := (List.getElem?_eq_some_iff.mp hpair).1
  rw [Text.replaceEach_take_succ hpair]
  exact (comesBack_sources i hlt pair hpair found hfound).infix_replaceAll_iff

/-- So do all replacements: the later ones spare it. -/
theorem infix_replaceEach_iff_sources (hpair : replacements[i]? = some pair)
    (hfound : sources[i]? = some found) (hi : i ≠ 0) (t : Text) :
    pair.1 <:+: Text.replaceEach replacements t ↔
      ∃ source ∈ found, source <:+: Text.replaceEach (replacements.take i) t := by
  rw [Text.replaceEach_split (i + 1), Text.infix_replaceEach_iff fun later hlater =>
    spares_of_mem_drop hpair (by omega) (by omega) hlater]
  exact infix_replaceEach_take_succ_iff hpair hfound t

end Own

theorem not_infix_hasOwnProperty (t : Text) :
    ¬ hasOwnProperty <:+: Text.replaceEach replacements t := by
  simpa using (infix_replaceEach_iff_sources (i := 3) rfl rfl (by decide) t).mp

theorem not_infix_ownershipCheck (t : Text) :
    ¬ ownershipCheck <:+: Text.replaceEach replacements t := by
  simpa using (infix_replaceEach_iff_sources (i := 4) rfl rfl (by decide) t).mp

/-- A foreign text that the first few replacements spare. -/
def Kept (mark : Text) (count : Nat) : Prop :=
  Foreign mark ∧ ∀ pair ∈ replacements.take count, Text.Spares pair mark

instance (mark : Text) (count : Nat) : Decidable (Kept mark count) :=
  inferInstanceAs (Decidable (_ ∧ _))

theorem kept_nested : Kept nestedTag 1 ∧ Kept nestedTest 1 ∧ Kept nestedDefineProperty 2 := by
  decide +kernel

/-- The guard and these replacements leave such a text if it was there. -/
theorem Kept.infix_iff {mark : Text} {count : Nat} (h : Kept mark count) :
    mark <:+: Text.replaceEach (replacements.take count) (ObjectLiteral.guard t) ↔ mark <:+: t :=
  (Text.infix_replaceEach_iff h.2).trans ((entered_guard t).infix_iff h.1)

theorem defineProperty_infix_iff (t : Text) :
    defineProperty <:+: Text.replaceEach replacements (ObjectLiteral.guard t) ↔
      nestedDefineProperty <:+: t := by
  have hsources := infix_replaceEach_iff_sources (i := 2) rfl rfl (by decide) (ObjectLiteral.guard t)
  simp only [List.mem_singleton, exists_eq_left] at hsources
  exact hsources.trans kept_nested.2.2.infix_iff

example : Text.replaceEach replacements nestedDefineProperty = defineProperty := by
  decide +kernel

theorem tagLed_joined :
    (Foreign joinedTag ∧ TagLed joinedTag) ∧ Foreign joinedTags ∧ TagLed joinedTags := by
  decide +kernel

/-- A foreign text that begins with the tag, behind the guard and the replaced feature tests. -/
theorem TagLed.infix_replaceEach_iff {mark : Text} (hforeign : Foreign mark) (h : TagLed mark) :
    mark <:+: Text.replaceEach (replacements.take 1) (ObjectLiteral.guard t) ↔
      Text.OccursWithout testLead mark t := by
  have htest : Foreign toStringTagTest := (foreign_and_longer _ (List.mem_of_getElem? (i := 0) rfl)).1
  have hentered : Entered (Text.replaceAll toStringTagTest "true".toList t)
      (Text.replaceAll toStringTagTest "true".toList (ObjectLiteral.guard t)) :=
    (entered_guard t).replaceAll htest
  exact (hentered.infix_iff hforeign).trans h.infix_replaceAll_iff

theorem toStringTag_infix_replaceEach_iff (t : Text) :
    toStringTag <:+: Text.replaceEach replacements (ObjectLiteral.guard t) ↔
      nestedTag <:+: t ∨ Text.OccursWithout testLead joinedTag t ∨
        Text.OccursWithout testLead joinedTags t := by
  obtain ⟨⟨hjoined, hled⟩, hboth, hleds⟩ := tagLed_joined
  have hsources := infix_replaceEach_iff_sources (i := 1) rfl rfl (by decide) (ObjectLiteral.guard t)
  rw [← kept_nested.1.infix_iff, ← hled.infix_replaceEach_iff hjoined, ← hleds.infix_replaceEach_iff hboth]
  refine hsources.trans ?_
  simp only [List.mem_cons, List.not_mem_nil, or_false, or_and_right, exists_or, exists_eq_left]

/-- The feature test meets what replaces the tag only where the tag is nested in it. -/
theorem meets_toStringTagTest :
    Text.overlaps toStringTagTest Names.toStringTag = [] ∧
      Text.overlaps Names.toStringTag toStringTagTest =
        [(testLead ++ "Symbol.".toList, "toStringTag".toList)] ∧
      Text.Whole toStringTag nestedTest ∧
      toStringTagTest <:+: Text.replaceAll toStringTag Names.toStringTag nestedTest := by
  decide +kernel

/-- A feature test is left only where the tag in it comes back: its own replacement leaves none. -/
theorem toStringTagTest_infix_iff (t : Text) :
    toStringTagTest <:+: Text.replaceEach replacements (ObjectLiteral.guard t) ↔ nestedTest <:+: t := by
  obtain ⟨hnone, hmeets, hwhole, hback⟩ := meets_toStringTagTest
  have hgone : ¬ toStringTagTest <:+:
      Text.replaceEach (replacements.take 1) (ObjectLiteral.guard t) := by
    simpa using (infix_replaceEach_take_succ_iff (i := 0) rfl rfl (ObjectLiteral.guard t)).mp
  have hlater : ∀ later ∈ replacements.drop 2, Text.Spares later toStringTagTest := fun _ =>
    spares_of_mem_drop (i := 0) rfl (by decide) (by decide)
  rw [← kept_nested.2.1.infix_iff, Text.replaceEach_split 2, Text.infix_replaceEach_iff hlater,
    Text.replaceEach_take_succ (i := 1) rfl]
  constructor
  · intro h
    rcases Text.infix_or_overlap_of_infix_replaceAll (by decide) hnone h with
      hin | ⟨front, behind, hmem, hin⟩
    · exact absurd hin hgone
    · rw [hmeets, List.mem_singleton, Prod.mk.injEq] at hmem
      obtain ⟨rfl, rfl⟩ := hmem
      exact hin
  · exact fun h => hback.trans (hwhole.infix_replaceAll (by decide) _ h)

/-- Of the five exact texts two are gone when the rules give a text.  The others are left exactly where a
replacement put them together again. -/
theorem infix_apply_iff (h : (rules.apply t ctx).result = .ok out) :
    ¬ hasOwnProperty <:+: out ∧ ¬ ownershipCheck <:+: out ∧
      (defineProperty <:+: out ↔ nestedDefineProperty <:+: t) ∧
      (toStringTag <:+: out ↔ nestedTag <:+: t ∨ Text.OccursWithout testLead joinedTag t ∨
        Text.OccursWithout testLead joinedTags t) ∧
      (toStringTagTest <:+: out ↔ nestedTest <:+: t) := by
  rw [eq_replaceEach_of_apply h]
  exact ⟨not_infix_hasOwnProperty _, not_infix_ownershipCheck _, defineProperty_infix_iff t,
    toStringTag_infix_replaceEach_iff t, toStringTagTest_infix_iff t⟩

section Sample

/-- What stands behind the first literal of the sample. -/
def nestedRest : Text :=
  toStringTagTest ++ (';' :: toStringTag) ++ (';' :: nestedDefineProperty) ++ hasOwnProperty ++
    ownershipCheck

/-- A text that every rule accepts, with a property defined on an `Object` of another one. -/
def nestedSample : Text :=
  "x ".toList ++ ("= {};".toList ++ nestedRest)

theorem guard_nestedSample_ne : ObjectLiteral.guard nestedSample ≠ nestedSample := by
  have hfront : "x ".toList.any ObjectLiteral.openers.contains = false := by decide
  have hguard := ObjectLiteral.guard_append_emptyLiteral (ObjectLiteral.not_opener_of_any hfront) nestedRest
  intro heq
  rw [nestedSample, hguard, List.append_cancel_left_eq] at heq
  exact absurd (congrArg (List.take 4) heq) (by simp)

theorem infix_nestedSample : toStringTagTest <:+: nestedSample ∧ nestedDefineProperty <:+: nestedSample ∧
    hasOwnProperty <:+: nestedSample ∧ ownershipCheck <:+: nestedSample := by
  decide +kernel

theorem occursWithout_nestedSample : Text.OccursWithout testLead toStringTag nestedSample := by
  refine ⟨"x ".toList ++ ("= \x7b\x7d;".toList ++ (toStringTagTest ++ [';'])),
    ';' :: nestedDefineProperty ++ hasOwnProperty ++ ownershipCheck, ?_, ?_⟩
  · simp [nestedSample, nestedRest]
  · decide +kernel

theorem admits_nestedSample : ∀ i < 6, Admits nestedSample {} i := by
  obtain ⟨htest, hdefine, hown, hcheck⟩ := infix_nestedSample
  intro i hi
  interval_cases i
  · exact not_not.mp (mt (guard_idle_iff {}).mpr guard_nestedSample_ne)
  · exact htest
  · exact occursWithout_nestedSample
  · exact (List.suffix_append "Object.".toList defineProperty).isInfix.trans hdefine
  · exact hown
  · exact hcheck

theorem infix_apply_iff_nestedSample :
    ∃ out, (rules.apply nestedSample {}).result = .ok out ∧
      ¬ hasOwnProperty <:+: out ∧ ¬ ownershipCheck <:+: out ∧
      (defineProperty <:+: out ↔ nestedDefineProperty <:+: nestedSample) := by
  have hresult := result_apply_of_admits {} admits_nestedSample
  obtain ⟨hown, hcheck, hdefine, -, -⟩ := infix_apply_iff hresult
  exact ⟨_, hresult, hown, hcheck, hdefine⟩

/-- The rules give a text in which a direct call of `Object.defineProperty` is left. -/
theorem defineProperty_left_nestedSample :
    ∃ out, (rules.apply nestedSample {}).result = .ok out ∧ defineProperty <:+: out := by
  exact ⟨_, result_apply_of_admits {} admits_nestedSample,
    (defineProperty_infix_iff nestedSample).mpr infix_nestedSample.2.1⟩

end Sample

end BundleHardening.Bootstrap
