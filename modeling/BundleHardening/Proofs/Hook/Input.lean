import BundleHardening.Hook.Answer
import BundleHardening.Proofs.Rule

/-!
# Reading a message of limited size

Reading stops one byte beyond the limit, so that no more has to be taken from the input than that.  The
wordings tell the errors apart: the twelfth character shows the kind of the error, and the characters behind
it the size or the fault.
-/

set_option autoImplicit false

namespace BundleHardening

/-- The bytes beyond those that are read under the limit have no part in what is read. -/
theorem Message.readFrom_taken (bytes : ByteArray) (limit : UInt64) :
    readFrom (taken bytes limit) limit = readFrom bytes limit := by
  have htaken : taken (taken bytes limit) limit = taken bytes limit := by
    rw [taken, taken, ByteArray.extract_extract, Nat.zero_add, Nat.zero_add, Nat.min_self]
  rw [readFrom, htaken, ← readFrom]

/-- Faults of the same wording are the same. -/
theorem Json.Fault.eq_of_message {a b : Json.Fault} (h : a.message = b.message) : a = b := by
  cases a <;> cases b <;> first | rfl | exact absurd h (by decide)

namespace ReadError

/-- The twelfth character of the wording. -/
def mark : ReadError → Char
  | notText => 'e'
  | tooLarge _ => 't'
  | notJson _ => 'k'
  | missingSource => 'h'

/-- The twelfth character of the wording is its mark. -/
theorem getElem?_message (e : ReadError) : e.message.toList[11]? = some e.mark := by
  -- the wordings are written out, as unfolding `message` would evaluate them character by character
  cases e with
  | notText =>
    change "failed to read hook input: stream did not contain valid UTF-8".toList[11]? = some 'e'
    rfl
  | tooLarge size =>
    change ("hook input too large (" ++ toString size ++ " bytes)").toList[11]? = some 't'
    rw [String.toList_append, String.toList_append, List.append_assoc]
    rfl
  | notJson fault =>
    change ("invalid hook JSON: " ++ fault.message).toList[11]? = some 'k'
    rw [String.toList_append]
    rfl
  | missingSource =>
    change "hook input has no \"source\" string".toList[11]? = some 'h'
    rfl

/-- Errors of the same wording are the same. -/
theorem eq_of_message {a b : ReadError} (h : a.message = b.message) : a = b := by
  have hmark : a.mark = b.mark := by
    have hchar := a.getElem?_message
    rw [h, b.getElem?_message] at hchar
    exact (Option.some.inj hchar).symm
  have hchars := congrArg String.toList h
  cases a <;> cases b <;> simp only [mark, Char.reduceEq] at hmark
  case notText.notText => rfl
  case tooLarge.tooLarge m n =>
    change ("hook input too large (" ++ toString m ++ " bytes)").toList =
      ("hook input too large (" ++ toString n ++ " bytes)").toList at hchars
    simp only [String.toList_append, List.append_cancel_left_eq,
      List.append_cancel_right_eq] at hchars
    have hdigits : Nat.toDigits 10 m = Nat.toDigits 10 n :=
      String.ofList_inj.mp (String.toList_inj.mp hchars)
    rw [← Nat.ofDigitChars_toDigits (n := m) (by decide) (Nat.le_refl 10), hdigits,
      Nat.ofDigitChars_toDigits (by decide) (Nat.le_refl 10)]
  case notJson.notJson f g =>
    change ("invalid hook JSON: " ++ f.message).toList =
      ("invalid hook JSON: " ++ g.message).toList at hchars
    simp only [String.toList_append, List.append_cancel_left_eq] at hchars
    rw [Json.Fault.eq_of_message (String.toList_inj.mp hchars)]
  case missingSource.missingSource => rfl

end ReadError

namespace Intake

variable {i : Intake} {bytes : ByteArray} {message : Message} {source : Text}

/-- Whether the bytes hold a message, and a source in it. -/
def Takes (i : Intake) (bytes : ByteArray) (message : Message) (source : Text) : Prop :=
  Message.readFrom bytes i.limit = .ok message ∧ message.source = some source

/-- What hardening the source of a message comes to. -/
def harden (i : Intake) (message : Message) (source : Text) : Except RewriteError Text :=
  (i.hardener.render source (message.target i.defaultName)).result

/-- A chunk that is taken is hardened under the name of the message. -/
theorem deliver_of_source (hsource : message.source = some source) :
    i.deliver message =
      .ok { chunk := message.target i.defaultName, source := source,
            result := i.harden message source } := by
  have hcall : (i.hardener.register {}).call source (message.target i.defaultName) =
      i.hardener.render source (message.target i.defaultName) :=
    Run.andThen_done _
  rw [deliver, hsource]
  dsimp only
  rw [hcall, harden]

end Intake

end BundleHardening
