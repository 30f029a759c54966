import BundleHardening.Journal.Basic
import BundleHardening.Proofs.Json.Quoted
import BundleHardening.Proofs.Text.Cut

/-!
# Which lines break

The line of an entry in JSON is a single line whatever the entry says (`le_of_mem_jsonLine`).  In words, the
texts of the entry go into the line as they are: it breaks where one of them does (`newline_mem_textLine`).
-/

set_option autoImplicit false

namespace BundleHardening

variable {c : Char} {t : Text} {ts : List Text}

/-! ## Numbers -/

/-- A number is written in decimal digits. -/
theorem isDigit_of_mem_toString {n : Nat} (h : c ∈ (toString n).toList) : c.isDigit = true := by
  rw [Nat.toString_eq_repr, Nat.toList_repr] at h
  exact Nat.isDigit_of_mem_toDigits (by decide) (Nat.le_refl 10) h

/-- No digit is a control character. -/
theorem le_of_isDigit (h : c.isDigit = true) : 0x20 ≤ c.toNat := by
  simp only [Char.isDigit, Bool.and_eq_true, decide_eq_true_eq] at h
  have hle : (48 : UInt32).toNat ≤ c.val.toNat := UInt32.le_iff_toNat_le.mp h.1
  exact Nat.le_trans (by decide) hle

/-! ## Points in time -/

namespace Timestamp

/-- A padded number is written in decimal digits. -/
theorem isDigit_of_mem_padded {width n : Nat} (h : c ∈ padded width n) : c.isDigit = true := by
  obtain hzero | hdigit := List.mem_append.mp h
  · rw [List.eq_of_mem_replicate hzero]
    rfl
  · exact isDigit_of_mem_toString hdigit

/-- The written form of a point in time consists of digits, and of the characters between them. -/
theorem isDigit_of_mem_ofSeconds {seconds : Nat} (h : c ∈ ofSeconds seconds) :
    c.isDigit = true ∨ c ∈ ['-', 'T', ':', 'Z'] := by
  simp only [ofSeconds, List.mem_append, List.mem_singleton, or_assoc] at h
  obtain h | rfl | h | rfl | h | rfl | h | rfl | h | rfl | h | rfl := h
  all_goals first
    | exact .inl (isDigit_of_mem_padded h)
    | exact .inr (by decide)

/-- No control character is in the written form of a point in time. -/
theorem le_of_mem_ofSeconds {seconds : Nat} (h : c ∈ ofSeconds seconds) : 0x20 ≤ c.toNat := by
  obtain hdigit | hbetween := isDigit_of_mem_ofSeconds h
  · exact le_of_isDigit hdigit
  · simp only [List.mem_cons, List.not_mem_nil, or_false] at hbetween
    obtain rfl | rfl | rfl | rfl := hbetween <;> decide

end Timestamp

/-! ## Joined texts -/

namespace Json

/-- A character other than those of the separator stands in joined texts where it stands in one of them. -/
theorem mem_joined {separator : Text} (hc : c ∉ separator) : c ∈ joined separator ts ↔ ∃ t ∈ ts, c ∈ t := by
  cases ts with
  | nil => simp [joined]
  | cons t ts => simp [joined_cons, hc]

/-- A comma in the written form of a string stands in the string. -/
theorem comma_mem_of_mem_quote (h : ',' ∈ quote t) : ',' ∈ t := by
  have hdigit : ∀ k < 0x20, hexDigit (k / 16) ≠ ',' ∧ hexDigit (k % 16) ≠ ',' := by decide
  simp only [quote, List.mem_cons, List.mem_append, List.mem_flatMap, List.not_mem_nil, or_false] at h
  obtain h | ⟨c, hc, h⟩ | h := h
  · exact absurd h (by decide)
  · unfold escapeChar at h
    split at h
    case h_8 =>
      split at h
      · next hcontrol =>
        have hdigits := hdigit c.toNat hcontrol
        simp [hdigits.1.symm, hdigits.2.symm] at h
      · rwa [List.mem_singleton.mp h]
    all_goals simp at h
  · exact absurd h (by decide)

/-- No control character is in an object whose members have none. -/
theorem le_of_mem_object (hmembers : ∀ t ∈ ts, ∀ d ∈ t, 0x20 ≤ d.toNat) (h : c ∈ object ts) :
    0x20 ≤ c.toNat := by
  simp only [object, List.mem_append, List.mem_singleton] at h
  obtain (rfl | h) | rfl := h
  · decide
  · by_cases hcomma : c = ','
    · subst hcomma
      decide
    · obtain ⟨t, ht, hct⟩ := (mem_joined (by simpa using hcomma)).mp h
      exact hmembers t ht c hct
  · decide

/-- No control character is in a member whose value has none. -/
theorem le_of_mem_member {key : String} (hvalue : c ∈ t → 0x20 ≤ c.toNat) (h : c ∈ member key t) :
    0x20 ≤ c.toNat := by
  simp only [member, List.mem_append, List.mem_singleton] at h
  obtain (h | rfl) | h := h
  · exact le_of_mem_quote h
  · decide
  · exact hvalue h

end Json

/-! ## Entries -/

namespace Entry

variable {e : Entry}

theorem le_of_mem_digits {n : Nat} (h : c ∈ digits n) : 0x20 ≤ c.toNat :=
  le_of_isDigit (isDigit_of_mem_toString h)

/-- No control character is in the line of an entry in JSON. -/
theorem le_of_mem_jsonLine (h : c ∈ e.jsonLine) : 0x20 ≤ c.toNat := by
  have hquoted (key : String) (t : Text) : ∀ d ∈ Json.member key (Json.quote t), 0x20 ≤ d.toNat :=
    fun _ => Json.le_of_mem_member Json.le_of_mem_quote
  have hcounted (key : String) (n : Nat) : ∀ d ∈ Json.member key (digits n), 0x20 ≤ d.toNat :=
    fun _ => Json.le_of_mem_member le_of_mem_digits
  refine Json.le_of_mem_object ?_ h
  simp only [List.forall_mem_append, List.forall_mem_cons, Option.mem_toList, Option.map_eq_some_iff,
    forall_exists_index, and_imp, forall_apply_eq_imp_iff₂]
  refine ⟨⟨⟨⟨⟨⟨hquoted _ _, hquoted _ _, hquoted _ _, hcounted _ _, nofun⟩, ?_⟩, ?_⟩, ?_⟩, ?_⟩, ?_⟩
  · exact fun n _ => hcounted _ n
  · exact fun n _ => hcounted _ n
  · exact fun t _ => hquoted _ t
  · exact fun t _ => hquoted _ t
  · exact fun t _ => hquoted _ t

/-- A newline in the line of an entry in words comes from one of its texts. -/
theorem newline_mem_textLine :
    '\n' ∈ e.textLine ↔
      '\n' ∈ e.timestamp ∨ '\n' ∈ e.chunk ∨ (∃ t ∈ e.rule, '\n' ∈ t) ∨ ∃ t ∈ e.error, '\n' ∈ t := by
  have hdigits (n : Nat) : '\n' ∉ digits n := fun h => absurd (le_of_mem_digits h) (by decide)
  have hlabel : '\n' ∉ e.outcome.label.toList := by cases e.outcome <;> decide
  have hsizes : '\n' ∉ e.sizes := by
    rw [sizes]
    cases e.outputBytes <;> simp [hdigits]
  rw [textLine, Json.mem_joined (by decide), parts]
  cases e.rule <;> cases e.error <;> cases e.microseconds <;> simp [hlabel, hsizes, hdigits]

/-! ## Outcomes -/

/-- In words, the outcome stands behind the first closing bracket. -/
theorem dropWhile_textLine (h : ']' ∉ e.timestamp) :
    ∃ rest, e.textLine.dropWhile (· != ']') = ']' :: ' ' :: (e.outcome.label.toList ++ ' ' :: rest) := by
  have hbefore : ']' ∉ '[' :: e.timestamp := by simpa using h
  have hline : ∃ rest, e.textLine =
      ('[' :: e.timestamp) ++ (']' :: ' ' :: (e.outcome.label.toList ++ ' ' :: rest)) := by
    rw [textLine, parts]
    simp only [Json.joined_cons, List.cons_append, List.nil_append, List.flatMap_cons, List.append_assoc]
    exact ⟨_, rfl⟩
  obtain ⟨rest, hline⟩ := hline
  exact ⟨rest, by rw [hline, Text.dropWhile_ne_append hbefore]⟩

/-- In JSON, the outcome stands behind the first comma. -/
theorem dropWhile_jsonLine (h : ',' ∉ e.timestamp) :
    ∃ rest, e.jsonLine.dropWhile (· != ',') =
      ',' :: (Json.member "outcome" (Json.quote e.outcome.name.toList) ++ ',' :: rest) := by
  have hbefore : ',' ∉ '{' :: Json.member "timestamp" (Json.quote e.timestamp) := by
    intro hd
    simp only [Json.member, List.mem_cons, List.mem_append, List.not_mem_nil, or_false] at hd
    obtain hd | (hd | hd) | hd := hd
    · exact absurd hd (by decide)
    · exact absurd (Json.comma_mem_of_mem_quote hd) (by decide)
    · exact absurd hd (by decide)
    · exact h (Json.comma_mem_of_mem_quote hd)
  have hline : ∃ rest, e.jsonLine =
      ('{' :: Json.member "timestamp" (Json.quote e.timestamp)) ++
        (',' :: (Json.member "outcome" (Json.quote e.outcome.name.toList) ++ ',' :: rest)) := by
    rw [jsonLine, Json.object]
    simp only [Json.joined_cons, List.cons_append, List.nil_append, List.flatMap_cons, List.append_assoc]
    exact ⟨_, rfl⟩
  obtain ⟨rest, hline⟩ := hline
  exact ⟨rest, by rw [hline, Text.dropWhile_ne_append hbefore]⟩

end Entry

end BundleHardening
