import BundleHardening.Proofs.Hook.Input
import BundleHardening.Proofs.Json.Texts
import Mathlib.Data.List.TakeWhile

/-!
# Reading a hardened line back

The line that gives a hardened chunk back has the shape of a message: what one run of the hook writes, the
next one reads (`Message.readFrom_hardenedLine`).  The limit decides about it in one place only.  The bytes
that are read are one more than the limit, and behind the greatest limit of 64 bits there is no such number:
then nothing is read, and the input seems to end early.
-/

set_option autoImplicit false

namespace BundleHardening

/-- A text is read back from its bytes. -/
theorem Text.ofBytes?_toBytes (t : Text) : ofBytes? (toBytes t) = some t := by
  have hdecode (s : String) : String.fromUTF8? s.toUTF8 = some s := by
    rw [String.fromUTF8?, String.toUTF8_eq_toByteArray, dif_pos s.isValidUTF8]
    rfl
  rw [ofBytes?, toBytes, hdecode, Option.map_some, String.toList_ofList]

section Line

open Json

variable {s rest space : Text}

/-- A hardened line is the object with the one member, whatever stands behind it. -/
theorem hardenedLine_append : hardenedLine s ++ rest =
    '\x7b' :: (quote "source".toList ++ ':' :: (quote s ++ '\x7d' :: rest)) := by
  simp [hardenedLine, object, joined, member]

/-- No control character stands in a hardened line. -/
theorem le_of_mem_hardenedLine {c : Char} (h : c ∈ hardenedLine s) : 0x20 ≤ c.toNat := by
  have hmem : c ∈ textObject [("source", s)] := h
  exact le_of_mem_textObject hmem

/-- A written string is read where a null may stand. -/
theorem nullable_quote : nullable stringValue (quote s ++ rest) = .ok (some s, rest) := by
  have hquote : skipSpace (quote s ++ rest) = quote s ++ rest := by
    rw [quote_append, skipSpace_cons rfl]
  rw [nullable, hquote]
  show (stringValue (quote s ++ rest)).map _ = _
  rw [stringValue_quote]
  rfl

/-- Behind its key, the written source is the source of the message. -/
theorem MessageMembers.member_source :
    member {} "source".toList (':' :: (quote s ++ rest)) = .ok ({ source := some (some s) }, rest) := by
  have hcolon : colon (':' :: (quote s ++ rest)) = .ok ((), quote s ++ rest) := by
    rw [colon, skipSpace_cons rfl]
    rfl
  rw [member, if_pos rfl, if_neg (by decide), hcolon]
  dsimp only [bind, Except.bind]
  rw [nullable_quote]

/-- A hardened line is read as a message with the text for its source. -/
theorem Message.ofText?_hardenedLine (hspace : ∀ c ∈ space, isSpace c = true) :
    ofText? (hardenedLine s ++ space) = .ok { source := some s } := by
  have hread : read (hardenedLine s ++ space) = .ok ({ source := some s }, space) := by
    rw [hardenedLine_append, read, skipSpace_cons rfl]
    show readObject _ = _
    -- two keys are asked for, and the text is longer than that
    obtain ⟨fuel, hfuel⟩ : ∃ fuel,
        (quote "source".toList ++ ':' :: (quote s ++ '\x7d' :: space)).length = fuel + 1 :=
      ⟨_, by rw [quote_append]; rfl⟩
    rw [readObject, members, hfuel, membersFrom, nextKey_first]
    dsimp only [bind, Except.bind]
    rw [MessageMembers.member_source]
    dsimp only
    rw [membersFrom, nextKey_end]
    rfl
  have hend : skipSpace space = [] := by
    rw [skipSpace, List.dropWhile_eq_nil_iff]
    exact hspace
  rw [ofText?, document, hread]
  dsimp only [bind, Except.bind]
  rw [hend]

end Line

namespace Message

variable {bytes : ByteArray} {limit : UInt64}

/-- One byte more than the limit is taken, if there are so many. -/
theorem taken_eq_extract (hlimit : limit.toNat + 1 < UInt64.size) :
    taken bytes limit = bytes.extract 0 (limit.toNat + 1) := by
  have hnext : (limit + 1).toNat = limit.toNat + 1 := by
    rw [UInt64.toNat_add]
    exact Nat.mod_eq_of_lt hlimit
  rw [taken, hnext]

/-- Under a limit that is at least their number, all bytes are read if the limit has a successor. -/
theorem taken_eq_self (hsize : bytes.size ≤ limit.toNat) (hlimit : limit.toNat + 1 < UInt64.size) :
    taken bytes limit = bytes := by
  rw [taken_eq_extract hlimit]
  apply ByteArray.ext
  rw [ByteArray.data_extract]
  exact Array.extract_eq_self_of_le (Nat.le_succ_of_le hsize)

/-- Under the greatest limit nothing is read. -/
theorem readFrom_of_greatest (hlimit : limit.toNat + 1 = UInt64.size) :
    readFrom bytes limit = .error (.notJson .cutShort) := by
  have hnext : (limit + 1).toNat = 0 := by
    rw [UInt64.toNat_add]
    show (limit.toNat + 1) % UInt64.size = 0
    rw [hlimit, Nat.mod_self]
  have htaken : taken bytes limit = Text.toBytes [] := by
    rw [taken, hnext, ByteArray.extract_same]
    rfl
  rw [readFrom, htaken]
  simp only [Text.ofBytes?_toBytes]
  rfl

/-- The line that gives a text back is one line without control characters.  With JSON space behind it, and
under a limit that is at least its size in bytes, it is read as a message that has the text for its source
and says nothing about a chunk.  The one exception is the greatest limit: nothing is read under it, so
that the input ends early. -/
theorem readFrom_hardenedLine {s space : Text} (hspace : ∀ c ∈ space, Json.isSpace c = true)
    (hsize : (Text.toBytes (hardenedLine s ++ space)).size ≤ limit.toNat) :
    (∀ c ∈ hardenedLine s, 0x20 ≤ c.toNat) ∧
      readFrom (Text.toBytes (hardenedLine s ++ space)) limit =
        if limit.toNat + 1 < UInt64.size then .ok { source := some s, chunk := none }
        else .error (.notJson .cutShort) := by
  refine ⟨fun c => le_of_mem_hardenedLine, ?_⟩
  split
  · next hlimit =>
    rw [readFrom, taken_eq_self hsize hlimit]
    simp only [Text.ofBytes?_toBytes]
    rw [if_neg (Nat.not_lt.mpr hsize), ofText?_hardenedLine hspace]
    rfl
  · next hlimit =>
    have hlt := limit.toNat_lt_size
    exact readFrom_of_greatest (by omega)

/-- A text with a quote, a backslash, a control character and a character beyond the first plane. -/
def awkwardSample : Text :=
  ['"', '\\', '\x1f', '😀']

/-- The line for it is read back under a limit of its size, the line end behind it included. -/
theorem readFrom_hardenedLine_sample :
    readFrom (Text.toBytes (hardenedLine awkwardSample ++ ['\r', '\n'])) 29 =
      .ok { source := some awkwardSample, chunk := none } := by
  have hspace : ∀ c ∈ ['\r', '\n'], Json.isSpace c = true := by simp [Json.isSpace]
  have hsize : (Text.toBytes (hardenedLine awkwardSample ++ ['\r', '\n'])).size ≤ (29 : UInt64).toNat := by
    decide +kernel
  obtain ⟨-, hread⟩ := readFrom_hardenedLine hspace hsize
  rw [hread, if_pos (by decide)]

/-- Under the greatest limit a line with a registry, which has far fewer bytes, is not read. -/
theorem readFrom_hardenedLine_greatest :
    (Text.toBytes (hardenedLine
        "var __webpack_require__ = \x7b\x7d;var __webpack_exports__ = \x7ba\x7d".toList)).size ≤
          (0xFFFFFFFFFFFFFFFF : UInt64).toNat ∧
      readFrom (Text.toBytes (hardenedLine
        "var __webpack_require__ = \x7b\x7d;var __webpack_exports__ = \x7ba\x7d".toList)) 0xFFFFFFFFFFFFFFFF =
          .error (.notJson .cutShort) :=
  ⟨by decide +kernel, readFrom_of_greatest (by decide)⟩

end Message

end BundleHardening
