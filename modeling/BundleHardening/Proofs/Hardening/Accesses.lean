import BundleHardening.Proofs.Hardening.Properties

/-!
# Reading property accesses from the left

The properties read off the require function are the names of the accesses that a scan from the left
finds in a span, each behind a word boundary, as long as it can be, and none inside an earlier one.  The
pattern finds exactly these (`properties_eq`).  Every name is a part of the span and made of word
characters (`of_mem_properties`).
-/

set_option autoImplicit false

namespace BundleHardening.Registry

open Ending

/-- What stands in front of the name in an access. -/
def accessLead : Text :=
  Names.require ++ ['.']

/-- The name of the access at the beginning of a text that stands behind the given character. -/
def access? (previous : Option Char) (t : Text) : Option Text :=
  if previous.any isWord then none
  else (Text.after? accessLead t).bind fun rest =>
    if rest.takeWhile isWord = [] then none else some (rest.takeWhile isWord)

/-- The names of the accesses from the left, behind so many characters that belong to an earlier one. -/
def accessesFrom : (skip : Nat) → (previous : Option Char) → Text → List Text
  | _, _, [] => []
  | skip + 1, _, c :: t => accessesFrom skip (some c) t
  | 0, previous, c :: t =>
    match access? previous (c :: t) with
    | some name => name :: accessesFrom (accessLead.length + name.length - 1) (some c) t
    | none => accessesFrom 0 (some c) t

/-- The names of all accesses in a text. -/
def accesses (t : Text) : List Text :=
  accessesFrom 0 none t

variable {previous : Option Char} {t name : Text}

theorem of_access? (h : access? previous t = some name) :
    (∃ rest, t = accessLead ++ (name ++ rest)) ∧ name ≠ [] ∧ ∀ c ∈ name, isWord c = true := by
  rw [access?] at h
  split at h
  · cases h
  · obtain ⟨rest, hrest, h⟩ := Option.bind_eq_some_iff.mp h
    split at h
    · cases h
    · next hne =>
      cases h
      refine ⟨⟨rest.dropWhile isWord, ?_⟩, hne, fun c hc => List.mem_takeWhile_imp hc⟩
      rw [List.takeWhile_append_dropWhile]
      exact Text.after?_eq_some_iff.mp hrest

/-- Every name is a part of the text, and made of word characters. -/
theorem of_mem_accessesFrom {skip : Nat} (h : name ∈ accessesFrom skip previous t) :
    name <:+: t ∧ ∀ c ∈ name, isWord c = true := by
  induction t generalizing skip previous with
  | nil => simp [accessesFrom] at h
  | cons c t ih =>
    have hlater {skip : Nat} {previous : Option Char} (h : name ∈ accessesFrom skip previous t) :
        name <:+: c :: t ∧ ∀ c ∈ name, isWord c = true :=
      (ih h).imp_left fun hin => hin.trans (List.suffix_cons c t).isInfix
    cases skip with
    | succ skip => exact hlater h
    | zero =>
      rw [accessesFrom] at h
      split at h
      · next found hfound =>
        rcases List.mem_cons.mp h with rfl | h
        · obtain ⟨⟨rest, hsplit⟩, -, hword⟩ := of_access? hfound
          exact ⟨⟨accessLead, rest, by rw [hsplit, List.append_assoc]⟩, hword⟩
        · exact hlater h
      · exact hlater h

section Finding

variable (here : Cursor)

/-- The scan goes on behind what it skips. -/
theorem accessesFrom_skip (skip : Nat) :
    accessesFrom skip here.previous here.rest =
      accessesFrom 0 (here.ahead skip).previous (here.ahead skip).rest := by
  induction skip generalizing here with
  | zero => rw [Cursor.ahead_zero]
  | succ skip ih =>
    cases hrest : here.rest with
    | nil => simp [accessesFrom, hrest]
    | cons c t =>
      have hnext : here.ahead (skip + 1) = (here.ahead 1).ahead skip := by
        rw [Cursor.ahead_ahead, Nat.add_comm]
      have hprevious : (here.ahead 1).previous = some c := Cursor.previous_ahead_one hrest
      have hafter : (here.ahead 1).rest = t := Cursor.rest_ahead_one hrest
      have hlater := ih (here.ahead 1)
      rw [hprevious, hafter] at hlater
      rw [hnext, accessesFrom, hlater]

/-- The marks of an access. -/
def accessMarks (name : Text) : Marks :=
  [(1, here.ahead (accessLead ++ name).length), (3, here.ahead (accessLead ++ name).length),
    (2, here.ahead accessLead.length), (0, here)]

theorem boundary_holds {rest : Text} (h : Text.after? accessLead here.rest = some rest) :
    (Look.boundary .any).holds here.previous here.following = !here.previous.any isWord := by
  have hfollowing : here.following = some '_' := by
    rw [Cursor.following, Text.after?_eq_some_iff.mp h]
    rfl
  have hword : isWord '_' = true := by decide
  simp [Look.holds, Boundary.holds, hfollowing, hword]

/-- The pattern of an access is tried in one way at each position. -/
theorem tries_property :
    (Regular.group 0 property).tries final here [] =
      (access? here.previous here.rest).map (accessMarks here) := by
  have hword (k : Ending) : (Regular.times 1 none true (.set .word)).tries k =
      one .word ((Regular.run .word).tries k) := rfl
  have hsplit (k : Ending) : (Regular.group 0 property).tries k here [] =
      under (.boundary .any) ((Regular.spelled accessLead).tries
        ((Regular.group 1 (.times 1 none true (.set .word))).tries (noting 1 k))) here [(0, here)] := by
    show under _ ((Regular.sequence (Regular.letters accessLead ++ _)).tries (noting 1 k)) here _ = _
    rw [Regular.tries_sequence_append]
    rfl
  rw [hsplit, under]
  cases hlead : Text.after? accessLead here.rest with
  | none => simp [Regular.tries_spelled, access?, hlead]
  | some rest =>
    have hrest : (here.ahead accessLead.length).rest = rest := by
      rw [Cursor.rest_ahead, Text.after?_eq_some_iff.mp hlead, List.drop_left]
    rw [boundary_holds here hlead, access?, hlead]
    cases here.previous.any isWord with
    | true => rfl
    | false =>
      rw [Bool.not_false, if_pos rfl, Regular.tries_spelled, hlead, Option.isSome_some, if_pos rfl]
      show (Regular.times 1 none true (.set .word)).tries (noting 3 (noting 1 final))
        (here.ahead accessLead.length) [(2, here.ahead accessLead.length), (0, here)] = _
      rw [hword, one, hrest]
      cases rest with
      | nil => simp
      | cons c rest =>
        have hnext : ((here.ahead accessLead.length).ahead 1).rest = rest :=
          Cursor.rest_ahead_one hrest
        cases hc : isWord c with
        | false => simp [Class.contains, hc]
        | true =>
          have hlength : (accessLead ++ c :: rest.takeWhile isWord).length =
              accessLead.length + 1 + (rest.takeWhile isWord).length := by
            rw [List.length_append, List.length_cons]
            omega
          have htake : rest.takeWhile Class.word.contains = rest.takeWhile isWord := rfl
          simp only [Class.contains, hc, if_true, List.takeWhile_cons, Option.bind_some]
          rw [Regular.tries_run_of_isSome (fun _ _ => rfl), hnext, htake, if_neg Bool.false_ne_true,
            if_neg (List.cons_ne_nil c _), Option.map_some, accessMarks, hlength]
          simp only [noting, final, Cursor.ahead_ahead]

/-- The first access in a text behind the given character, with its distance. -/
def firstAccess? (previous : Option Char) : Text → Option (Nat × Text)
  | [] => none
  | c :: t =>
    match access? previous (c :: t) with
    | some name => some (0, name)
    | none => (firstAccess? (some c) t).map fun (distance, name) => (distance + 1, name)

theorem access?_nil (previous : Option Char) : access? previous [] = none := by
  rw [access?]
  split <;> rfl

theorem accessesFrom_eq :
    accessesFrom 0 here.previous here.rest =
      match firstAccess? here.previous here.rest with
      | none => []
      | some (distance, name) =>
        let next := here.ahead (distance + (accessLead ++ name).length)
        name :: accessesFrom 0 next.previous next.rest := by
  generalize htext : here.rest = text
  induction text generalizing here with
  | nil => rfl
  | cons c text ih =>
    have hprevious : (here.ahead 1).previous = some c := Cursor.previous_ahead_one htext
    have hafter : (here.ahead 1).rest = text := Cursor.rest_ahead_one htext
    rw [accessesFrom, firstAccess?]
    cases haccess : access? here.previous (c :: text) with
    | some name =>
      have hskip := accessesFrom_skip (here.ahead 1) (accessLead.length + name.length - 1)
      have hlength : 1 + (accessLead.length + name.length - 1) = 0 + (accessLead ++ name).length := by
        rw [List.length_append, accessLead]
        simp only [List.length_append, List.length_singleton]
        omega
      rw [hprevious, hafter, Cursor.ahead_ahead, hlength] at hskip
      simp only [hskip]
    | none =>
      have hlater := ih (here.ahead 1) hafter
      rw [hprevious] at hlater
      simp only [hlater]
      cases firstAccess? (some c) text with
      | none => rfl
      | some found =>
        simp only [Option.map_some, Cursor.ahead_ahead]
        rw [Nat.add_comm found.1 1, Nat.add_assoc]

/-- The search goes to the first access. -/
theorem earliest_property :
    Search.earliest (Node.ofPattern property) here =
      (firstAccess? here.previous here.rest).map fun (distance, name) =>
        accessMarks (here.ahead distance) name := by
  have htries : (Node.ofPattern property).tries = (Regular.group 0 property).tries :=
    Node.tries_ofRegular (.group 0 property) rfl 0
  generalize htext : here.rest = text
  induction text generalizing here with
  | nil =>
    rw [Search.earliest_eq, htries, tries_property, Search.later, htext, access?_nil]
    rfl
  | cons c text ih =>
    have hprevious : (here.ahead 1).previous = some c := Cursor.previous_ahead_one htext
    have hafter : (here.ahead 1).rest = text := Cursor.rest_ahead_one htext
    have hlater : Search.later (Node.ofPattern property) here =
        Search.earliest (Node.ofPattern property) (here.ahead 1) := by rw [Search.later, htext]
    rw [Search.earliest_eq, htries, tries_property, hlater, ih (here.ahead 1) hafter, hprevious, htext,
      firstAccess?]
    cases access? here.previous (c :: text) with
    | some name => simp
    | none =>
      cases firstAccess? (some c) text with
      | none => rfl
      | some found => simp [Nat.add_comm 1]

/-- The pattern of a property, ready to match. -/
def propertyReady : Pattern :=
  .ofRegular propertyPattern .linear property

/-- What is found of an access. -/
def accessFound (name : Text) : Found where
  first := here
  last := here.ahead (accessLead ++ name).length
  groups := [some (here.ahead accessLead.length, here.ahead (accessLead ++ name).length)]

theorem find_property :
    propertyReady.find here =
      match firstAccess? here.previous here.rest with
      | none => .nowhere
      | some (distance, name) => .found (accessFound (here.ahead distance) name) := by
  have hrun : Search.run (Node.ofPattern property) false here =
      Search.earliest (Node.ofPattern property) here := Pattern.run_ofPattern rfl here
  simp only [propertyReady, Pattern.find, Pattern.ofRegular, hrun, earliest_property]
  cases firstAccess? here.previous here.rest <;> rfl

variable {here} in
/-- At the distance of the first access stands an access. -/
theorem of_firstAccess? {distance : Nat}
    (h : firstAccess? here.previous here.rest = some (distance, name)) :
    access? (here.ahead distance).previous (here.ahead distance).rest = some name := by
  generalize htext : here.rest = text at h
  induction text generalizing here distance with
  | nil => cases h
  | cons c text ih =>
    have hprevious : (here.ahead 1).previous = some c := Cursor.previous_ahead_one htext
    have hafter : (here.ahead 1).rest = text := Cursor.rest_ahead_one htext
    rw [firstAccess?] at h
    split at h
    · next found hfound =>
      cases h
      rwa [Cursor.ahead_zero, htext]
    · obtain ⟨⟨further, _⟩, hlater, heq⟩ := Option.map_eq_some_iff.mp h
      cases heq
      have hin := ih hafter (hprevious ▸ hlater)
      rwa [Cursor.ahead_ahead, Nat.add_comm 1] at hin

theorem length_accessLead (name : Text) : 0 < (accessLead ++ name).length := by
  rw [List.length_append, accessLead, List.length_append, List.length_singleton]
  omega

/-- Group one of a found access is its name. -/
theorem get?_accessFound (h : access? here.previous here.rest = some name) :
    (Scan.groupsOf (accessFound here name)).get? 1 = some name := by
  obtain ⟨⟨rest, hsplit⟩, -, -⟩ := of_access? h
  have hname : (here.ahead accessLead.length).upTo (here.ahead (accessLead ++ name).length) = name := by
    rw [Cursor.upTo_ahead, hsplit, List.drop_left, List.length_append, Nat.add_sub_cancel_left,
      List.take_left]
  show some ((here.ahead accessLead.length).upTo (here.ahead (accessLead ++ name).length)) = _
  rw [hname]

/-- What a scan takes from each match, behind what it has taken before. -/
theorem collect_property : ∀ (fuel : Nat) (start : Cursor) (taken : Option Nat) (hits : List Hit),
    start.rest.length < fuel →
      (Scan.collect propertyReady false fuel none (some start) start taken hits).hits.filterMap
          (·.groups.get? 1) =
        hits.reverse.filterMap (·.groups.get? 1) ++ accessesFrom 0 start.previous start.rest := by
  intro fuel
  induction fuel with
  | zero => intro start taken hits hlt; exact absurd hlt (Nat.not_lt_zero _)
  | succ fuel ih =>
    intro start taken hits hlt
    rw [accessesFrom_eq, Scan.collect, find_property]
    cases hfirst : firstAccess? start.previous start.rest with
    | none => simp
    | some found =>
      obtain ⟨distance, name⟩ := found
      have haccess := of_firstAccess? hfirst
      obtain ⟨⟨rest, hsplit⟩, -, -⟩ := of_access? haccess
      have hpos := length_accessLead name
      have hfull : ((start.ahead distance).index ==
          ((start.ahead distance).ahead (accessLead ++ name).length).index) = false := by
        simp only [Cursor.index_ahead, beq_eq_false_iff_ne]
        omega
      have hshort : (start.ahead (distance + (accessLead ++ name).length)).rest.length < fuel := by
        have hlen := congrArg List.length hsplit
        simp only [Cursor.rest_ahead, List.length_drop, List.length_append] at hlen hpos ⊢
        omega
      have hnext := ih (start.ahead (distance + (accessLead ++ name).length))
        (some (start.ahead (distance + (accessLead ++ name).length)).index)
        (⟨start.upTo (start.ahead distance), Scan.groupsOf (accessFound (start.ahead distance) name)⟩ ::
          hits) hshort
      rw [List.reverse_cons, List.filterMap_append, List.filterMap_cons, get?_accessFound _ haccess] at hnext
      have hgo : ((none : Option Nat) == some 0) = false := rfl
      simp only [hgo, accessFound, hfull, Bool.false_and, Bool.false_eq_true, if_false, Option.map_none]
      simp only [accessFound, Cursor.ahead_ahead, List.append_assoc, List.singleton_append,
        List.filterMap_nil] at hnext ⊢
      exact hnext

end Finding

/-- The properties read off the require function are the names of the accesses. -/
theorem properties_eq (span : Text) : properties span = distinct [] (accesses span) := by
  have hp : Pattern.ofText propertyPattern = .ok propertyReady :=
    Pattern.ofText_of_read (by decide +kernel) ofText?_property
  have hcollect := collect_property (2 * span.length + 4) (Cursor.start span) none []
    (by simp only [Cursor.start]; omega)
  have haborted : (Scan.of propertyReady none span).aborted = false :=
    Scan.aborted_collect (Pattern.find_ofRegular_ne_aborted propertyPattern .linear property) ..
  have hvalues : propertyReady.groupValues span 1 = .ok (accesses span) := by
    rw [Pattern.groupValues]
    simp only [haborted, Bool.false_eq_true, if_false]
    exact congrArg Except.ok hcollect
  rw [properties, requireProperties, hp, propertiesBy_ok hvalues]
  rfl

example :
    distinct [] (accesses "__webpack_require__.o; __webpack_require__.m; __webpack_require__.o".toList) =
      ["o".toList, "m".toList] := by
  decide +kernel

theorem mem_distinct_iff {seen names : List Text} :
    name ∈ distinct seen names ↔ name ∈ names ∧ name ∉ seen := by
  induction names generalizing seen with
  | nil => simp [distinct]
  | cons found names ih =>
    rw [distinct]
    split
    · next hcontains =>
      have hseen : found ∈ seen := List.contains_iff_mem.mp hcontains
      rw [ih, List.mem_cons]
      constructor
      · exact fun ⟨hmem, hnot⟩ => ⟨Or.inr hmem, hnot⟩
      · rintro ⟨rfl | hmem, hnot⟩
        · exact absurd hseen hnot
        · exact ⟨hmem, hnot⟩
    · next hcontains =>
      have hseen : found ∉ seen := fun hmem => hcontains (List.contains_iff_mem.mpr hmem)
      rw [List.mem_cons, ih, List.mem_cons, List.mem_cons]
      by_cases heq : name = found
      · simp [heq, hseen]
      · simp [heq]

/-- Every property is a part of the span, and made of word characters. -/
theorem of_mem_properties {span : Text} (h : name ∈ properties span) :
    name <:+: span ∧ ∀ c ∈ name, isWord c = true :=
  of_mem_accessesFrom (mem_distinct_iff.mp (properties_eq span ▸ h)).1

theorem isWord_of_mem_properties (span : Text) : ∀ name ∈ properties span, ∀ c ∈ name, isWord c = true :=
  fun _ hname => (of_mem_properties hname).2

end BundleHardening.Registry
