import BundleHardening.Proofs.Hook.RoundTrip
import BundleHardening.Proofs.Host.Files

/-!
# Messages at the size limit

One byte more than the limit is taken from the input.  That is enough to keep the limit: a message that is
read has no more bytes than the limit and all of them were decoded, and what stands behind the bytes taken
makes no difference (`Message.readFrom_limited`).  It is not enough to tell that an input is too large.  The
bytes taken are decoded before they are counted, so that an oversized text is reported as one where a
character ends with the last byte taken, and as no text at all where the cut goes through a character
(`Message.readFrom_oversized`).
-/

set_option autoImplicit false

namespace BundleHardening

/-! ## Beginnings of bytes -/

namespace Text

/-- Bytes are decoded to the text of which they are the UTF-8 form. -/
theorem ofBytes?_eq_some_iff {bytes : ByteArray} {t : Text} :
    ofBytes? bytes = some t ↔ toBytes t = bytes := by
  constructor
  · intro h
    obtain ⟨s, hs, rfl⟩ := Option.map_eq_some_iff.mp h
    rw [String.fromUTF8?] at hs
    split at hs
    · cases hs
      rw [toBytes, String.ofList_toList]
      rfl
    · cases hs
  · rintro rfl
    exact ofBytes?_toBytes t

/-- The size of a text in bytes is the number of its bytes. -/
theorem size_toBytes (t : Text) : (toBytes t).size = byteSize t := by
  induction t with
  | nil =>
    rw [toBytes_nil]
    rfl
  | cons c t ih =>
    have hone : (toBytes [c]).size = c.utf8Size := by
      simp [toBytes, List.utf8Encode, String.length_utf8EncodeChar]
    rw [← List.singleton_append, toBytes_append, ByteArray.size_append, ih, hone, List.singleton_append,
      byteSize]

/-- The first bytes of a text are those of another text where that is a beginning of the text. -/
theorem ofBytes?_extract_eq_some_iff {t front : Text} {n : Nat} (h : n ≤ byteSize t) :
    ofBytes? ((toBytes t).extract 0 n) = some front ↔ front <+: t ∧ byteSize front = n := by
  rw [ofBytes?_eq_some_iff]
  constructor
  · intro hfront
    have hsize : byteSize front = n := by
      rw [← size_toBytes, hfront, ByteArray.size_extract, size_toBytes, Nat.min_eq_left h, Nat.sub_zero]
    refine ⟨?_, hsize⟩
    -- no two characters begin with the same bytes, so that a beginning of the bytes is one of the text
    have hsplit : toBytes front ++ (toBytes t).extract n (byteSize t) = toBytes t := by
      rw [hfront, ← ByteArray.extract_eq_extract_append_extract n (Nat.zero_le n) h, ← size_toBytes,
        ByteArray.extract_zero_size]
    simp only [toBytes, String.toUTF8_eq_toByteArray, String.toByteArray_ofList] at hsplit
    exact List.isPrefix_of_utf8Encode_append_eq_utf8Encode _ hsplit
  · rintro ⟨⟨back, rfl⟩, rfl⟩
    rw [toBytes_append, ByteArray.extract_append_eq_left (size_toBytes front).symm]

end Text

/-! ## The bytes taken -/

namespace Message

variable {bytes : ByteArray} {limit : UInt64}

theorem size_taken (hlimit : limit.toNat + 1 < UInt64.size) :
    (taken bytes limit).size = min (limit.toNat + 1) bytes.size := by
  rw [taken_eq_extract hlimit, ByteArray.size_extract, Nat.sub_zero]

/-- What the bytes say, all of them read as one message. -/
def decode (bytes : ByteArray) : Except ReadError Message :=
  match Text.ofBytes? bytes with
  | none => .error .notText
  | some t => (ofText? t).mapError .notJson

/-- Under a limit that is at least their number, all bytes are decoded. -/
theorem readFrom_of_size_le (hlimit : limit.toNat + 1 < UInt64.size) (hsize : bytes.size ≤ limit.toNat) :
    readFrom bytes limit = decode bytes := by
  rw [readFrom, taken_eq_self hsize hlimit, decode]
  cases Text.ofBytes? bytes with
  | none => rfl
  | some t => exact if_neg (Nat.not_lt.mpr hsize)

/-- More bytes than the limit are too many, if those that are taken are a text. -/
theorem readFrom_of_lt_size (hlimit : limit.toNat + 1 < UInt64.size) (hsize : limit.toNat < bytes.size) :
    readFrom bytes limit =
      if (Text.ofBytes? (taken bytes limit)).isSome then .error (.tooLarge (limit.toNat + 1))
      else .error .notText := by
  have htaken : (taken bytes limit).size = limit.toNat + 1 := by
    rw [size_taken hlimit, Nat.min_eq_left hsize]
  rw [readFrom]
  cases Text.ofBytes? (taken bytes limit) with
  | none => rfl
  | some t =>
    dsimp only
    rw [htaken, if_pos (Nat.lt_succ_self _)]
    rfl

/-- A limit is kept.  A message is read when the bytes are at most as many and all of them are the message;
an input that is reported as too large has more bytes, of which one more than the limit was counted; and
of two inputs with more bytes than the limit that agree up to one byte behind it, none is told from the
other. -/
theorem readFrom_limited (hlimit : limit.toNat + 1 < UInt64.size) :
    (∀ bytes message, readFrom bytes limit = .ok message ↔
      bytes.size ≤ limit.toNat ∧ decode bytes = .ok message) ∧
    (∀ bytes n, readFrom bytes limit = .error (.tooLarge n) →
      n = limit.toNat + 1 ∧ limit.toNat < bytes.size) ∧
    (∀ a b : ByteArray, limit.toNat < a.size → limit.toNat < b.size →
      a.extract 0 (limit.toNat + 1) = b.extract 0 (limit.toNat + 1) →
        readFrom a limit = readFrom b limit) := by
  refine ⟨fun bytes message => ?_, fun bytes n htoo => ?_, fun a b ha hb hagree => ?_⟩
  · rcases Nat.lt_or_ge limit.toNat bytes.size with hsize | hsize
    · rw [readFrom_of_lt_size hlimit hsize]
      constructor
      · intro hread
        split at hread <;> cases hread
      · rintro ⟨hle, -⟩
        exact absurd hsize (Nat.not_lt.mpr hle)
    · rw [readFrom_of_size_le hlimit hsize]
      exact ⟨fun hread => ⟨hsize, hread⟩, And.right⟩
  · rcases Nat.lt_or_ge limit.toNat bytes.size with hsize | hsize
    · rw [readFrom_of_lt_size hlimit hsize] at htoo
      split at htoo <;> cases htoo
      exact ⟨rfl, hsize⟩
    · -- decoding never counts
      rw [readFrom_of_size_le hlimit hsize, decode] at htoo
      cases htext : Text.ofBytes? bytes with
      | none =>
        rw [htext] at htoo
        cases htoo
      | some t =>
        rw [htext] at htoo
        dsimp only at htoo
        cases hread : ofText? t <;> rw [hread] at htoo <;> cases htoo
  · rw [readFrom_of_lt_size hlimit ha, readFrom_of_lt_size hlimit hb, taken_eq_extract hlimit,
      taken_eq_extract hlimit, hagree]

/-- A message without a source, of fifteen bytes. -/
def emptySample : Text :=
  "\x7b\"source\":null\x7d".toList

/-- The message is read under a limit of its size.  With two bytes more it makes no difference what the second
of them is. -/
theorem readFrom_limited_sample :
    readFrom (Text.toBytes emptySample) 15 = .ok {} ∧
      readFrom (Text.toBytes (emptySample ++ [' ', '\x7b'])) 15 =
        readFrom (Text.toBytes (emptySample ++ [' ', ' '])) 15 := by
  have hlimit : (15 : UInt64).toNat + 1 < UInt64.size := by decide
  obtain ⟨hread, -, hagree⟩ := readFrom_limited hlimit
  constructor
  · refine (hread _ _).mpr ⟨by decide +kernel, ?_⟩
    rw [decode, Text.ofBytes?_toBytes]
    rfl
  · exact hagree _ _ (by decide +kernel) (by decide +kernel) (by decide +kernel)

/-- A text with more bytes than the limit is reported as too large where a character of it ends one byte
behind the limit.  Where none does, the cut goes through a character, and the text is reported as no
text. -/
theorem readFrom_oversized {t : Text} (htext : Text.ofBytes? bytes = some t)
    (hlimit : limit.toNat + 1 < UInt64.size) (hsize : limit.toNat < bytes.size) :
    (readFrom bytes limit = .error (.tooLarge (limit.toNat + 1)) ↔
      ∃ front, front <+: t ∧ Text.byteSize front = limit.toNat + 1) ∧
    (readFrom bytes limit = .error .notText ↔
      ¬∃ front, front <+: t ∧ Text.byteSize front = limit.toNat + 1) := by
  obtain rfl := Text.ofBytes?_eq_some_iff.mp htext
  rw [Text.size_toBytes] at hsize
  have hcut : (∃ front, front <+: t ∧ Text.byteSize front = limit.toNat + 1) ↔
      (Text.ofBytes? (taken (Text.toBytes t) limit)).isSome = true := by
    rw [taken_eq_extract hlimit, Option.isSome_iff_exists]
    exact exists_congr fun front => (Text.ofBytes?_extract_eq_some_iff hsize).symm
  rw [readFrom_of_lt_size hlimit (by rwa [Text.size_toBytes]), hcut]
  split <;> simp [*]

/-- A message with a character of two bytes. -/
def accentSample : Text :=
  "\x7b\"source\":\"é\"\x7d".toList

/-- Cut before the character, the message is too large. -/
theorem readFrom_oversized_accent :
    Text.ofBytes? (Text.toBytes accentSample) = some accentSample ∧
      (10 : UInt64).toNat < (Text.toBytes accentSample).size ∧
      readFrom (Text.toBytes accentSample) 10 = .error (.tooLarge 11) := by
  have hsize : (10 : UInt64).toNat < (Text.toBytes accentSample).size := by decide +kernel
  obtain ⟨htoo, -⟩ := readFrom_oversized (Text.ofBytes?_toBytes accentSample) (by decide) hsize
  exact ⟨Text.ofBytes?_toBytes _, hsize, htoo.mpr ⟨accentSample.take 11, List.take_prefix _ _, by decide⟩⟩

/-- Cut through the character, the same message is no text, although it is one and has more bytes than the
limit. -/
theorem readFrom_cut_character :
    Text.ofBytes? (Text.toBytes accentSample) = some accentSample ∧
      (11 : UInt64).toNat < (Text.toBytes accentSample).size ∧
      readFrom (Text.toBytes accentSample) 11 = .error .notText := by
  have hsize : (11 : UInt64).toNat < (Text.toBytes accentSample).size := by decide +kernel
  refine ⟨Text.ofBytes?_toBytes _, hsize, ?_⟩
  have hnone : (Text.ofBytes? (taken (Text.toBytes accentSample) 11)).isSome = false := by decide +kernel
  rw [readFrom_of_lt_size (by decide) hsize, hnone, if_neg Bool.false_ne_true]

end Message

end BundleHardening
