import BundleHardening.Proofs.Hardening.Accesses
import BundleHardening.Proofs.Hardening.Entered

/-!
# The text of the loop

The loop in front of a span is fixed text around the written form of a list of names.  The names are made
of word characters, so they stand there as they are: what the list holds and its own punctuation does not
is held by one of the names (`Json.infix_quoteAll`).  The loop itself comes from a text without a
`__proto__` by an entry (`Registry.entered_guardLoop`).  Whether a mark can begin in it is told by the
characters of the mark and by the fixed text (`Registry.Unlisted.overlaps_guardLoop`).
-/

set_option autoImplicit false

namespace BundleHardening

theorem not_isWord_of_control {c : Char} (h : c.toNat < 32) : isWord c = false := by
  have hlow : ∀ n < 32, isAsciiWord (Char.ofNat n) = false := by decide
  have hascii := hlow c.toNat h
  rw [Char.ofNat_toNat] at hascii
  rw [isWord, if_pos (by omega), hascii]

namespace Json

variable {c : Char} {t mark : Text} {names : List Text}

/-- A word character is written as it is. -/
theorem escapeChar_of_isWord (h : isWord c = true) : escapeChar c = [c] := by
  have hcontrol : ¬ c.toNat < 0x20 := fun hlt => by
    rw [not_isWord_of_control hlt] at h
    cases h
  unfold escapeChar
  split
  all_goals first | exact absurd h (by decide) | exact if_neg hcontrol

theorem quote_of_isWord (h : ∀ c ∈ t, isWord c = true) : quote t = '"' :: (t ++ ['"']) := by
  have hescape : t.flatMap escapeChar = t := by
    induction t with
    | nil => rfl
    | cons c t ih =>
      obtain ⟨hc, ht⟩ := List.forall_mem_cons.mp h
      rw [List.flatMap_cons, escapeChar_of_isWord hc, ih ht]
      rfl
  rw [quote, hescape]

/-- What a written name holds without a quote is held by the name. -/
theorem infix_quote (h : ∀ c ∈ t, isWord c = true) (hquote : '"' ∉ mark) (hne : mark ≠ [])
    (hin : mark <:+: quote t) : mark <:+: t := by
  rw [quote_of_isWord h, ← List.nil_append ('"' :: (t ++ ['"'])),
    Text.infix_append_cons_iff hquote, Text.infix_append_cons_iff hquote] at hin
  rcases hin with hin | hin | hin
  · exact absurd (List.infix_nil.mp hin) hne
  · exact hin
  · exact absurd (List.infix_nil.mp hin) hne

theorem infix_joined {texts : List Text} (hcomma : ',' ∉ mark) (hne : mark ≠ [])
    (hin : mark <:+: joined [','] texts) : ∃ t ∈ texts, mark <:+: t := by
  induction texts with
  | nil => exact absurd (List.infix_nil.mp hin) hne
  | cons t texts ih =>
    cases texts with
    | nil => exact ⟨t, List.mem_singleton_self t, hin⟩
    | cons u texts =>
      have hjoined : joined [','] (t :: u :: texts) = t ++ ',' :: joined [','] (u :: texts) := by
        simp [joined]
      rw [hjoined, Text.infix_append_cons_iff hcomma] at hin
      rcases hin with hin | hin
      · exact ⟨t, List.mem_cons_self, hin⟩
      · obtain ⟨t', hmem, hin'⟩ := ih hin
        exact ⟨t', List.mem_cons_of_mem t hmem, hin'⟩

/-- What a written list of names holds without the punctuation of lists is held by a name. -/
theorem infix_quoteAll (h : ∀ name ∈ names, ∀ c ∈ name, isWord c = true)
    (hplain : ∀ c ∈ ['[', ']', ',', '"'], c ∉ mark) (hne : mark ≠ [])
    (hin : mark <:+: quoteAll names) : ∃ name ∈ names, mark <:+: name := by
  have hquoteAll : quoteAll names = [] ++ '[' :: (joined [','] (names.map quote) ++ ']' :: []) := rfl
  rw [hquoteAll, Text.infix_append_cons_iff (hplain _ (by simp)),
    Text.infix_append_cons_iff (hplain _ (by simp))] at hin
  rcases hin with hin | hin | hin
  · exact absurd (List.infix_nil.mp hin) hne
  · obtain ⟨_, hmem, hquote⟩ := infix_joined (hplain _ (by simp)) hne hin
    obtain ⟨name, hname, rfl⟩ := List.mem_map.mp hmem
    exact ⟨name, hname, infix_quote (h name hname) (hplain _ (by simp)) hne hquote⟩
  · exact absurd (List.infix_nil.mp hin) hne

example : quoteAll ["m".toList, "o".toList] = "[\"m\",\"o\"]".toList := by
  decide +kernel

/-- The punctuation of lists of strings. -/
def punctuation : List Char :=
  ['[', ']', ',', '"']

/-- A written list of names holds word characters and punctuation. -/
theorem not_mem_quoteAll (h : ∀ name ∈ names, ∀ c ∈ name, isWord c = true) (hword : isWord c = false)
    (hplain : c ∉ punctuation) : c ∉ quoteAll names := by
  intro hmem
  have hin : [c] <:+: quoteAll names := by
    obtain ⟨front, rest, hsplit⟩ := List.append_of_mem hmem
    exact ⟨front, rest, by rw [hsplit]; simp⟩
  have hother : ∀ d ∈ punctuation, d ∉ [c] := fun d hd hdc =>
    hplain (List.mem_singleton.mp hdc ▸ hd)
  obtain ⟨name, hname, hin⟩ := infix_quoteAll h hother (by simp) hin
  exact Bool.false_ne_true (hword.symm.trans (h name hname c (hin.subset (by simp))))

/-- The last name ends in a quote. -/
theorem exists_joined_quote_eq (hne : names ≠ []) :
    ∃ list, joined [','] (names.map quote) = list ++ ['"'] := by
  induction names with
  | nil => exact absurd rfl hne
  | cons name names ih =>
    cases names with
    | nil => exact ⟨'"' :: name.flatMap escapeChar, rfl⟩
    | cons other names =>
      obtain ⟨list, hlist⟩ := ih (List.cons_ne_nil other names)
      refine ⟨quote name ++ [','] ++ list, ?_⟩
      rw [List.append_assoc _ list, ← hlist]
      rfl

end Json

namespace Registry

/-- What stands in the loop in front of the names. -/
def loopFront : Text :=
  "for (let i = 0, props=".toList

/-- What stands in the loop behind the names. -/
def loopRear : Text :=
  "; i < props.length; i++)\n  ".toList ++ (Names.defineProperty ++ (['('] ++ (Names.require ++
    ", props[i], \x7b__proto__: null, value: 0, writable: 1\x7d);\n".toList)))

theorem guardLoop_eq (names : List Text) :
    guardLoop names = loopFront ++ (Json.quoteAll names ++ loopRear) := by
  have hassoc (a b c d e f g : Text) :
      a ++ b ++ c ++ d ++ e ++ f ++ g = a ++ (b ++ (c ++ (d ++ (e ++ (f ++ g))))) := by
    simp only [List.append_assoc]
  exact hassoc _ _ _ _ _ _ _

/-- A loop begins with its keyword. -/
theorem for_prefix_guardLoop (names : List Text) : "for ".toList <+: guardLoop names := by
  rw [guardLoop_eq]
  exact ⟨_, rfl⟩

/-- What stands behind the names, up to the literal. -/
def loopHead : Text :=
  "; i < props.length; i++)\n  defineProperty(__webpack_require__, props[i], ".toList

/-- What stands behind the entry of the literal. -/
def loopTail : Text :=
  " value: 0, writable: 1\x7d);\n".toList

theorem loopRear_eq :
    loopRear = loopHead ++ ('\x7b' :: (ObjectLiteral.nullProto ++ ([','] ++ loopTail))) := by
  decide +kernel

/-- The loop without the entry in its literal. -/
def bareLoop (names : List Text) : Text :=
  loopFront ++ (Json.quoteAll names ++ (loopHead ++ ('\x7b' :: loopTail)))

theorem entered_guardLoop (names : List Text) : Entered (bareLoop names) (guardLoop names) := by
  have hentry : Entered ('\x7b' :: ([] ++ loopTail))
      ('\x7b' :: (ObjectLiteral.nullProto ++ ([','] ++ loopTail))) :=
    .entry (List.forall_mem_nil _) (Or.inl rfl) (.refl loopTail)
  rw [guardLoop_eq, loopRear_eq]
  exact ((hentry.append_left loopHead).append_left (Json.quoteAll names)).append_left loopFront

section Marks

variable {mark : Text} {names : List Text}

/-- A mark that can begin neither in a list of names, for it has no quote, and a character that no such list
has, nor behind the last quote of the list. -/
structure Unlisted (mark : Text) : Prop where
  quote : '"' ∉ mark
  other : mark.any (fun c => !isWord c && !Json.punctuation.contains c) = true
  rear : Text.overlaps mark (']' :: loopRear) = []

instance (mark : Text) : Decidable (Unlisted mark) :=
  decidable_of_iff ('"' ∉ mark ∧
    mark.any (fun c => !isWord c && !Json.punctuation.contains c) = true ∧
      Text.overlaps mark (']' :: loopRear) = [])
    ⟨fun ⟨hquote, hother, hrear⟩ => ⟨hquote, hother, hrear⟩, fun h => ⟨h.quote, h.other, h.rear⟩⟩

namespace Unlisted

theorem overlaps_listing (h : Unlisted mark) (hne : names ≠ [])
    (hnames : ∀ name ∈ names, ∀ c ∈ name, isWord c = true) :
    Text.overlaps mark (Json.quoteAll names ++ loopRear) = [] := by
  obtain ⟨c, hc, hother⟩ := List.any_eq_true.mp h.other
  obtain ⟨hword, hplain⟩ : isWord c = false ∧ c ∉ Json.punctuation := by simpa using hother
  obtain ⟨list, hlist⟩ := Json.exists_joined_quote_eq hne
  have hquoteAll : Json.quoteAll names = ('[' :: list ++ ['"']) ++ [']'] := by
    rw [Json.quoteAll, hlist]
    rfl
  have hnot := Json.not_mem_quoteAll hnames hword hplain
  rw [hquoteAll] at hnot ⊢
  rw [List.append_assoc]
  refine Text.overlaps_append_eq_nil (Text.overlaps_concat_eq_nil h.quote hc ?_) h.rear
  exact fun hin => hnot (List.mem_append_left _ hin)

/-- Such a mark begins nowhere in the loop, if it does not in what stands in front of the names. -/
theorem overlaps_guardLoop (h : Unlisted mark) (hfront : Text.overlaps mark loopFront = [])
    (hne : names ≠ []) (hnames : ∀ name ∈ names, ∀ c ∈ name, isWord c = true) :
    Text.overlaps mark (guardLoop names) = [] := by
  rw [guardLoop_eq]
  exact Text.overlaps_append_eq_nil hfront (h.overlaps_listing hne hnames)

end Unlisted

end Marks

end Registry

end BundleHardening
