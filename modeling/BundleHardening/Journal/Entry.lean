import BundleHardening.Json.Quoted
import BundleHardening.Render

/-!
# Entries of the journal

An entry says what became of one chunk.  It is written as one line, in words or as a JSON object; a
part that is not known is left out.
-/

set_option autoImplicit false

namespace BundleHardening

/-- What became of a chunk. -/
inductive Outcome where
  | rewritten
  | refused
  deriving DecidableEq, Repr

/-- The name of the outcome in a JSON line. -/
def Outcome.name : Outcome → String
  | rewritten => "rewritten"
  | refused => "refused"

/-- The name of the outcome in a line of words. -/
def Outcome.label : Outcome → String
  | rewritten => "REWRITTEN"
  | refused => "REFUSED"

/-- What became of one chunk, and when. -/
structure Entry where
  timestamp : Text
  outcome : Outcome
  chunk : Text
  inputBytes : Nat
  outputBytes : Option Nat := none
  microseconds : Option Nat := none
  rule : Option Text := none
  pattern : Option Text := none
  error : Option Text := none
  deriving DecidableEq

namespace Entry

/-- The entry of a chunk that was rewritten. -/
def rewritten (timestamp : Text) (chunk : String) (report : RenderReport) (microseconds : Nat) :
    Entry where
  timestamp := timestamp
  outcome := .rewritten
  chunk := chunk.toList
  inputBytes := report.inputBytes
  outputBytes := some report.outputBytes
  microseconds := some microseconds

/-- The entry of a chunk that was refused. -/
def refused (timestamp : Text) (chunk : String) (inputBytes : Nat) (e : RewriteError) : Entry where
  timestamp := timestamp
  outcome := .refused
  chunk := chunk.toList
  inputBytes := inputBytes
  rule := some e.rule.toList
  pattern := some e.pattern
  error := some e.message.toList

/-- The digits of a number. -/
def digits (n : Nat) : Text :=
  (toString n).toList

/-- The words for the sizes of the chunk. -/
def sizes (e : Entry) : Text :=
  match e.outputBytes with
  | some out => digits e.inputBytes ++ "B -> ".toList ++ digits out ++ ['B']
  | none => digits e.inputBytes ++ ['B']

/-- The parts of an entry in words. -/
def parts (e : Entry) : List Text :=
  [['['] ++ e.timestamp ++ [']'], e.outcome.label.toList, e.chunk, e.sizes] ++
    e.rule.toList ++
    (e.error.map fun error => "-- ".toList ++ error).toList ++
    (e.microseconds.map fun us => ['('] ++ digits us ++ "us)".toList).toList

/-- The entry in words. -/
def textLine (e : Entry) : Text :=
  Json.joined [' '] e.parts

/-- The entry as a JSON object. -/
def jsonLine (e : Entry) : Text :=
  Json.object
    ([Json.member "timestamp" (Json.quote e.timestamp),
      Json.member "outcome" (Json.quote e.outcome.name.toList),
      Json.member "chunk" (Json.quote e.chunk),
      Json.member "input_bytes" (digits e.inputBytes)] ++
     (e.outputBytes.map fun n => Json.member "output_bytes" (digits n)).toList ++
     (e.microseconds.map fun n => Json.member "elapsed_us" (digits n)).toList ++
     (e.rule.map fun t => Json.member "rule" (Json.quote t)).toList ++
     (e.pattern.map fun t => Json.member "pattern" (Json.quote t)).toList ++
     (e.error.map fun t => Json.member "error" (Json.quote t)).toList)

end Entry

end BundleHardening
