import BundleHardening.Text.Basic

/-!
# Why a rewrite fails

A chunk is refused when a mandatory rule finds nothing to change, when a rule's pattern cannot be
read, or when matching is aborted.  The error says which rule it was and what it looked for.
-/

set_option autoImplicit false

namespace BundleHardening

/-- What rules are told about the chunk: its name, if it has one. -/
structure Context where
  chunkName : Option String := none

/-- The name that stands for the chunk in messages; a chunk without a name is called after the code
that is rewritten. -/
def Context.displayName (ctx : Context) : String :=
  match ctx.chunkName with
  | some name => if name.isEmpty then "bootstrap" else name
  | none => "bootstrap"

/-- Why a rewrite fails.  The position of a rule in its rule set is filled in when it is known, and
with it the text that the rule set was given. -/
inductive RewriteError where
  | mismatch (index : Option Nat) (rule : String) (pattern : Text) (chunk : String) (source : Text)
  | invalidPattern (rule : String) (pattern : Text) (reason : String)
  | execution (rule : String) (pattern : Text) (reason : String)
  deriving DecidableEq, Repr

namespace RewriteError

/-- What every message begins with. -/
def heading : String := "[ProtectBootstrap]"

/-- The name of the rule that failed. -/
def rule : RewriteError → String
  | mismatch _ rule _ _ _ | invalidPattern rule _ _ | execution rule _ _ => rule

/-- The pattern of the rule that failed, as written. -/
def pattern : RewriteError → Text
  | mismatch _ _ pattern _ _ | invalidPattern _ pattern _ | execution _ pattern _ => pattern

/-- The text that was to be rewritten, when the chunk has not the expected shape. -/
def source? : RewriteError → Option Text
  | mismatch _ _ _ _ source => some source
  | _ => none

/-- The position of the rule in its rule set, once it is known. -/
def index? : RewriteError → Option Nat
  | mismatch index _ _ _ _ => index
  | _ => none

/-- Whether the chunk has not the expected shape. -/
def isMismatch : RewriteError → Bool
  | mismatch _ _ _ _ _ => true
  | _ => false

/-- Whether the position of the rule is still to be filled in. -/
def isUnplaced : RewriteError → Bool
  | mismatch none _ _ _ _ => true
  | _ => false

/-- Fills in the position of the rule and the text given to the rule set.  An error that has a position
already, or needs none, stays as it is. -/
def placed (e : RewriteError) (index : Nat) (source : Text) : RewriteError :=
  match e with
  | mismatch none rule pattern chunk _ => mismatch (some index) rule pattern chunk source
  | e => e

/-- The wording of the error. -/
def message : RewriteError → String
  | mismatch _ _ pattern chunk _ =>
    heading ++ " \"" ++ String.ofList pattern ++ "\" not found in " ++ chunk
  | invalidPattern rule pattern reason =>
    heading ++ " rule " ++ rule ++ " has an invalid pattern \"" ++ String.ofList pattern ++ "\": " ++
      reason
  | execution rule pattern reason =>
    heading ++ " rule " ++ rule ++ " failed on \"" ++ String.ofList pattern ++ "\": " ++ reason

end RewriteError

end BundleHardening
