import BundleHardening.Proofs.Hardening.Accesses

/-!
# Which property accesses a scan finds

A property access has a character in front of it, a name, and text behind it.  Whether it is one depends on
the characters that a name is taken to be made of.  `scan` reads the accesses from the left, and
`mem_scan_iff` says which it finds without mention of how: those that stand in the text and begin inside no
other that is found.

The properties read off the require function are what the scan finds with word characters
(`properties_eq_names`).  In the language of the chunk a dollar sign is part of a name as well, so that
accesses are misread where one is in touch with them.  `requireProperties_names` says that the two readings
of a span agree exactly where none is.
-/

set_option autoImplicit false

namespace BundleHardening.Registry

/-- A property access: the character in front of it, the name, and the text behind it. -/
structure Access where
  before : Option Char
  name : Text
  behind : Text

namespace Access

/-- The text from the access on. -/
def text (a : Access) : Text :=
  accessLead ++ (a.name ++ a.behind)

/-- The access begins a text that stands behind the given character.  Its name is as long as it can be. -/
structure Begins (inName : Char → Bool) (before : Option Char) (t : Text) (a : Access) : Prop where
  text_eq : t = a.text
  before_eq : a.before = before
  free : before.any inName = false
  named : a.name ≠ []
  spelled : ∀ c ∈ a.name, inName c = true
  longest : a.behind.head?.any inName = false

/-- The access stands somewhere in such a text. -/
def Stands (inName : Char → Bool) (before : Option Char) (t : Text) (a : Access) : Prop :=
  ∃ front rest, t = front ++ rest ∧ a.Begins inName (front.getLast?.or before) rest

/-- The access begins behind the beginning of another, and before its end. -/
def BeginsInside (a b : Access) : Prop :=
  b.behind.length < a.text.length ∧ a.text.length < b.text.length

variable {inName : Char → Bool} {before : Option Char} {a b : Access} {c : Char} {t : Text}

theorem length_text (a : Access) :
    a.text.length = accessLead.length + (a.name.length + a.behind.length) := by
  rw [text, List.length_append, List.length_append]

theorem text_ne_nil (a : Access) : a.text ≠ [] :=
  List.append_ne_nil_of_left_ne_nil (by decide) _

theorem not_stands_nil : ¬ a.Stands inName before [] := by
  rintro ⟨front, rest, hsplit, hbegins⟩
  have hrest : rest = [] := (List.append_eq_nil_iff.mp hsplit.symm).2
  exact a.text_ne_nil (hbegins.text_eq.symm.trans hrest)

/-- An access stands at the beginning of a text or behind its first character. -/
theorem stands_cons_iff :
    a.Stands inName before (c :: t) ↔ a.Begins inName before (c :: t) ∨ a.Stands inName (some c) t := by
  have hlast (front : Text) : (c :: front).getLast?.or before = front.getLast?.or (some c) := by
    rw [List.getLast?_cons]
    cases front.getLast? <;> rfl
  constructor
  · rintro ⟨front, rest, hsplit, hbegins⟩
    cases front with
    | nil => exact Or.inl (hsplit ▸ hbegins)
    | cons d front =>
      obtain ⟨rfl, rfl⟩ := List.cons_eq_cons.mp hsplit
      exact Or.inr ⟨front, rest, rfl, hlast front ▸ hbegins⟩
  · rintro (hbegins | ⟨front, rest, rfl, hbegins⟩)
    · exact ⟨[], c :: t, rfl, hbegins⟩
    · exact ⟨c :: front, rest, rfl, (hlast front).symm ▸ hbegins⟩

theorem Stands.length_le (h : a.Stands inName before t) : a.text.length ≤ t.length := by
  obtain ⟨front, rest, rfl, hbegins⟩ := h
  rw [← hbegins.text_eq, List.length_append]
  exact Nat.le_add_left _ _

end Access

section Scan

variable {inName : Char → Bool} {before : Option Char} {a : Access} {t : Text} {skip : Nat}

/-- The access at the beginning of a text that stands behind the given character. -/
def accessAt? (inName : Char → Bool) (before : Option Char) (t : Text) : Option Access :=
  if before.any inName then none
  else (Text.after? accessLead t).bind fun rest =>
    if rest.takeWhile inName = [] then none
    else some ⟨before, rest.takeWhile inName, rest.dropWhile inName⟩

/-- The accesses from the left, behind so many characters that belong to an earlier one. -/
def scanFrom (inName : Char → Bool) : (skip : Nat) → (before : Option Char) → Text → List Access
  | _, _, [] => []
  | skip + 1, _, c :: t => scanFrom inName skip (some c) t
  | 0, before, c :: t =>
    match accessAt? inName before (c :: t) with
    | some a => a :: scanFrom inName (accessLead.length + a.name.length - 1) (some c) t
    | none => scanFrom inName 0 (some c) t

/-- All accesses of a text, from the left and without overlap. -/
def scan (inName : Char → Bool) (t : Text) : List Access :=
  scanFrom inName 0 none t

theorem accessAt?_eq_some_iff : accessAt? inName before t = some a ↔ a.Begins inName before t := by
  constructor
  · intro h
    rw [accessAt?] at h
    split at h
    · cases h
    · next hfree =>
      obtain ⟨rest, hrest, h⟩ := Option.bind_eq_some_iff.mp h
      split at h
      · cases h
      · next hnamed =>
        cases h
        refine ⟨?_, rfl, Bool.eq_false_iff.mpr hfree, hnamed, fun c hc => List.mem_takeWhile_imp hc, ?_⟩
        · rw [Access.text, List.takeWhile_append_dropWhile]
          exact Text.after?_eq_some_iff.mp hrest
        · have hhead := List.head?_dropWhile_not inName rest
          cases hdrop : (rest.dropWhile inName).head? with
          | none => rfl
          | some c =>
            rw [hdrop] at hhead
            exact hhead
  · rintro ⟨rfl, rfl, hfree, hnamed, hspelled, hlongest⟩
    have htake : (a.name ++ a.behind).takeWhile inName = a.name := by
      rw [List.takeWhile_append_of_pos hspelled]
      cases hbehind : a.behind with
      | nil => simp
      | cons c rest =>
        rw [hbehind] at hlongest
        have hstop : ¬ inName c = true := Bool.eq_false_iff.mp hlongest
        rw [List.takeWhile_cons_of_neg hstop, List.append_nil]
    have hdrop : (a.name ++ a.behind).dropWhile inName = a.behind := by
      have hall := List.takeWhile_append_dropWhile (p := inName) (l := a.name ++ a.behind)
      rw [htake] at hall
      exact List.append_cancel_left hall
    rw [accessAt?, if_neg (Bool.eq_false_iff.mp hfree), Access.text, Text.after?_append, Option.bind_some,
      htake, if_neg hnamed, hdrop]

/-- What an access takes up besides its first character. -/
theorem Access.Begins.length_eq {c : Char} (h : a.Begins inName before (c :: t)) :
    a.text.length = t.length + 1 ∧ a.behind.length + (accessLead.length + a.name.length - 1) = t.length := by
  have hlead : 0 < accessLead.length := by decide
  have hwhole : t.length + 1 = a.text.length := congrArg List.length h.text_eq
  have htext := a.length_text
  omega

theorem mem_scanFrom_iff :
    a ∈ scanFrom inName skip before t ↔
      a.Stands inName before t ∧ a.text.length + skip ≤ t.length ∧
        ∀ b ∈ scanFrom inName skip before t, ¬ a.BeginsInside b := by
  induction t generalizing a skip before with
  | nil => simp [scanFrom, Access.not_stands_nil]
  | cons c t ih =>
    rw [Access.stands_cons_iff, List.length_cons]
    cases skip with
    | succ skip =>
      rw [scanFrom, ih]
      constructor
      · rintro ⟨hstands, hlen, hnot⟩
        exact ⟨Or.inr hstands, by omega, hnot⟩
      · rintro ⟨hstands, hlen, hnot⟩
        refine ⟨hstands.resolve_left fun hbegins => ?_, by omega, hnot⟩
        have hwhole := hbegins.length_eq.1
        omega
    | zero =>
      rw [scanFrom]
      cases hat : accessAt? inName before (c :: t) with
      | none =>
        have hnone : ¬ a.Begins inName before (c :: t) := fun hbegins => by
          rw [accessAt?_eq_some_iff.mpr hbegins] at hat
          cases hat
        dsimp only
        rw [ih, or_iff_right hnone]
        constructor
        · rintro ⟨hstands, hlen, hnot⟩
          exact ⟨hstands, by omega, hnot⟩
        · rintro ⟨hstands, hlen, hnot⟩
          exact ⟨hstands, hstands.length_le, hnot⟩
      | some b =>
        have hbegins := accessAt?_eq_some_iff.mp hat
        obtain ⟨hwhole, hbehind⟩ := hbegins.length_eq
        dsimp only
        rw [List.mem_cons, List.forall_mem_cons]
        constructor
        · rintro (rfl | hmem)
          · -- The accesses behind begin where this one ends, or later.
            refine ⟨Or.inl hbegins, by omega, fun hinside => Nat.lt_irrefl _ hinside.2, fun b' hb' hinside => ?_⟩
            have hlen := (ih.mp hb').2.1
            have hlonger := hinside.2
            omega
          · obtain ⟨hstands, hlen, hnot⟩ := ih.mp hmem
            refine ⟨Or.inr hstands, by omega, fun hinside => ?_, hnot⟩
            have hlonger := hinside.1
            omega
        · rintro ⟨hbegins' | hstands, -, hinside, hnot⟩
          · rw [accessAt?_eq_some_iff.mpr hbegins'] at hat
            exact Or.inl (Option.some.inj hat)
          · have hlen := hstands.length_le
            have hbehind : ¬ b.behind.length < a.text.length := fun hlt => hinside ⟨hlt, by omega⟩
            exact Or.inr (ih.mpr ⟨hstands, by omega, hnot⟩)

/-- The scan finds the accesses that stand in the text and begin inside no other that it finds. -/
theorem mem_scan_iff :
    a ∈ scan inName t ↔ a.Stands inName none t ∧ ∀ b ∈ scan inName t, ¬ a.BeginsInside b := by
  rw [scan, mem_scanFrom_iff, and_congr_right_iff]
  exact fun hstands => and_iff_right hstands.length_le

-- The second access begins inside the name of the first one.
example : (scan isWord "__webpack_require__.__webpack_require__.x".toList).map Access.name =
    [Names.require] := by
  decide +kernel

theorem scan_eq_nil_iff : scan inName t = [] ↔ ∀ a : Access, ¬ a.Stands inName none t := by
  constructor
  · intro hnil a hstands
    have hmem : a ∈ scan inName t := mem_scan_iff.mpr ⟨hstands, by simp [hnil]⟩
    rw [hnil] at hmem
    cases hmem
  · exact fun h => List.eq_nil_iff_forall_not_mem.mpr fun a hmem => h a (mem_scan_iff.mp hmem).1

end Scan

section Names

variable {before : Option Char} {t : Text} {skip : Nat}

theorem access?_eq_map : access? before t = (accessAt? isWord before t).map Access.name := by
  rw [access?, accessAt?]
  split
  · rfl
  · cases Text.after? accessLead t with
    | none => rfl
    | some rest =>
      rw [Option.bind_some, Option.bind_some]
      split <;> rfl

theorem accessesFrom_eq_map :
    accessesFrom skip before t = (scanFrom isWord skip before t).map Access.name := by
  induction t generalizing skip before with
  | nil => rw [accessesFrom, scanFrom, List.map_nil]
  | cons c t ih =>
    cases skip with
    | succ skip => exact ih
    | zero =>
      rw [accessesFrom, scanFrom, access?_eq_map]
      cases accessAt? isWord before (c :: t) with
      | none => exact ih
      | some a => exact congrArg (a.name :: ·) ih

/-- The names of the accesses in a span, in the order of the accesses. -/
def accessedNames (span : Text) : List Text :=
  (scan isWord span).map Access.name

/-- The properties read off the require function are the names of the accesses, each once. -/
theorem properties_eq_names (span : Text) : properties span = distinct [] (accessedNames span) := by
  rw [properties_eq, accesses, accessesFrom_eq_map]
  rfl

theorem mem_properties_iff {span name : Text} :
    name ∈ properties span ↔ ∃ a ∈ scan isWord span, a.name = name := by
  rw [properties_eq_names, mem_distinct_iff, and_iff_left List.not_mem_nil, accessedNames, List.mem_map]

end Names

section Identifiers

variable {before : Option Char} {a : Access} {c : Char} {t : Text} {skip : Nat}

/-- Whether a character can be part of an identifier in the language of the chunk. -/
def isIdentifierPart (c : Char) : Bool :=
  isWord c || c == '$'

theorem isIdentifierPart_of_ne (h : c ≠ '$') : isIdentifierPart c = isWord c := by
  rw [isIdentifierPart, beq_false_of_ne h, Bool.or_false]

theorem any_isIdentifierPart {o : Option Char} (h : o ≠ some '$') :
    o.any isIdentifierPart = o.any isWord := by
  cases o with
  | none => rfl
  | some c => exact isIdentifierPart_of_ne fun heq => h (congrArg some heq)

/-- A dollar sign stands in front of the access, in its name or right behind it. -/
def Access.TouchesDollar (a : Access) : Prop :=
  a.before = some '$' ∨ '$' ∈ a.name ∨ a.behind.head? = some '$'

/-- Away from dollar signs the two readings of a name agree. -/
theorem Access.begins_iff_of_not_touches (h : ¬ a.TouchesDollar) :
    a.Begins isWord before t ↔ a.Begins isIdentifierPart before t := by
  obtain ⟨hbefore, hname, hbehind⟩ :
      a.before ≠ some '$' ∧ '$' ∉ a.name ∧ a.behind.head? ≠ some '$' := by
    simpa only [TouchesDollar, not_or] using h
  have hspelled (c : Char) (hc : c ∈ a.name) : isIdentifierPart c = isWord c :=
    isIdentifierPart_of_ne fun heq => hname (heq ▸ hc)
  constructor
  · rintro ⟨htext, rfl, hfree, hnamed, hall, hlongest⟩
    refine ⟨htext, rfl, ?_, hnamed, fun c hc => ?_, ?_⟩
    · rw [any_isIdentifierPart hbefore, hfree]
    · rw [hspelled c hc, hall c hc]
    · rw [any_isIdentifierPart hbehind, hlongest]
  · rintro ⟨htext, rfl, hfree, hnamed, hall, hlongest⟩
    refine ⟨htext, rfl, ?_, hnamed, fun c hc => ?_, ?_⟩
    · rw [← any_isIdentifierPart hbefore, hfree]
    · rw [← hspelled c hc, hall c hc]
    · rw [← any_isIdentifierPart hbehind, hlongest]

theorem accessAt?_eq_of_not_touches
    (hword : ∀ a, accessAt? isWord before t = some a → ¬ a.TouchesDollar)
    (hpart : ∀ a, accessAt? isIdentifierPart before t = some a → ¬ a.TouchesDollar) :
    accessAt? isWord before t = accessAt? isIdentifierPart before t := by
  refine Option.ext fun a => ⟨fun h => ?_, fun h => ?_⟩
  · have hbegins := accessAt?_eq_some_iff.mp h
    exact accessAt?_eq_some_iff.mpr ((Access.begins_iff_of_not_touches (hword a h)).mp hbegins)
  · have hbegins := accessAt?_eq_some_iff.mp h
    exact accessAt?_eq_some_iff.mpr ((Access.begins_iff_of_not_touches (hpart a h)).mpr hbegins)

/-- Two scans that meet no dollar sign go the same way. -/
theorem scanFrom_eq_of_not_touches (hword : ∀ a ∈ scanFrom isWord skip before t, ¬ a.TouchesDollar)
    (hpart : ∀ a ∈ scanFrom isIdentifierPart skip before t, ¬ a.TouchesDollar) :
    scanFrom isWord skip before t = scanFrom isIdentifierPart skip before t := by
  induction t generalizing skip before with
  | nil => rw [scanFrom, scanFrom]
  | cons c t ih =>
    cases skip with
    | succ skip => exact ih hword hpart
    | zero =>
      have hfirst {inName : Char → Bool} {a : Access} (h : accessAt? inName before (c :: t) = some a) :
          a ∈ scanFrom inName 0 before (c :: t) := by
        rw [scanFrom, h]
        exact List.mem_cons_self
      have hat := accessAt?_eq_of_not_touches (fun a h => hword a (hfirst h))
        fun a h => hpart a (hfirst h)
      rw [scanFrom] at hword hpart
      rw [scanFrom, scanFrom]
      rw [hat] at hword ⊢
      cases h : accessAt? isIdentifierPart before (c :: t) with
      | none =>
        rw [h] at hword hpart
        exact ih hword hpart
      | some a =>
        rw [h] at hword hpart
        exact congrArg (a :: ·)
          (ih (List.forall_mem_cons.mp hword).2 (List.forall_mem_cons.mp hpart).2)

/-- An access that both scans find is in touch with no dollar sign. -/
theorem Access.Stands.not_touches (h : a.Stands isWord none t) (h' : a.Stands isIdentifierPart none t) :
    ¬ a.TouchesDollar := by
  obtain ⟨_, _, -, hbegins⟩ := h
  obtain ⟨_, _, -, hbegins'⟩ := h'
  have hfree := hbegins'.free
  have hlongest := hbegins'.longest
  rw [← hbegins'.before_eq] at hfree
  rintro (hbefore | hname | hbehind)
  · rw [hbefore] at hfree
    cases hfree
  · have hspelled := hbegins.spelled '$' hname
    exact absurd hspelled (by decide)
  · rw [hbehind] at hlongest
    cases hlongest

theorem scan_eq_iff (t : Text) :
    scan isWord t = scan isIdentifierPart t ↔
      ∀ a ∈ scan isWord t ++ scan isIdentifierPart t, ¬ a.TouchesDollar := by
  constructor
  · intro heq a hmem
    rw [heq, List.mem_append, or_self] at hmem
    have hword := heq.symm ▸ hmem
    exact (mem_scan_iff.mp hword).1.not_touches (mem_scan_iff.mp hmem).1
  · intro h
    obtain ⟨hword, hpart⟩ := List.forall_mem_append.mp h
    exact scanFrom_eq_of_not_touches hword hpart

/-- Reading the properties off a span gives the names that are found with word characters, each once.  The
accesses are those of the language of the chunk exactly where no access of either kind is in touch with a
dollar sign, and then the names are the full names.  A name with a dollar sign is never given. -/
theorem requireProperties_names (span : Text) :
    ∃ names, (requireProperties span).result = .ok names ∧
      (∀ name, name ∈ names ↔ ∃ a ∈ scan isWord span, a.name = name) ∧
      (scan isWord span = scan isIdentifierPart span ↔
        ∀ a ∈ scan isWord span ++ scan isIdentifierPart span, ¬ a.TouchesDollar) ∧
      ((∀ a ∈ scan isWord span ++ scan isIdentifierPart span, ¬ a.TouchesDollar) →
        ∀ name, name ∈ names ↔ ∃ a ∈ scan isIdentifierPart span, a.name = name) ∧
      ∀ a ∈ scan isIdentifierPart span, '$' ∈ a.name → a.name ∉ names := by
  refine ⟨properties span, by rw [requireProperties_eq]; rfl, fun name => mem_properties_iff,
    scan_eq_iff span, fun h name => ?_, fun a _ hdollar hmem => ?_⟩
  · rw [mem_properties_iff, (scan_eq_iff span).mpr h]
  · exact absurd ((of_mem_properties hmem).2 '$' hdollar) (by decide)

/-- Accesses that are in touch with a dollar sign: in front of the name, inside it, and in front of the
require function. -/
def dollarSample : Text :=
  "__webpack_require__.$Refresh$.setup(1); __webpack_require__.a$b; $__webpack_require__.x".toList

/-- The first name is missed, the second one cut short, and the third one is that of another object. -/
theorem requireProperties_dollarSample :
    (scan isIdentifierPart dollarSample).map Access.name = ["$Refresh$".toList, "a$b".toList] ∧
      (requireProperties dollarSample).result = .ok ["a".toList, "x".toList] := by
  refine ⟨by decide +kernel, ?_⟩
  have hnames : distinct [] (accessedNames dollarSample) = ["a".toList, "x".toList] := by decide +kernel
  rw [requireProperties_eq, properties_eq_names, hnames]
  rfl

end Identifiers

end BundleHardening.Registry
