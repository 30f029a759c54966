import BundleHardening.Proofs.Hardening.Decision
import BundleHardening.Render

/-!
# What a render depends on

A render hardens the text of a chunk; the name of the chunk and the declarations that may be put in front
have no part in it.  `Hardener.render_alike` compares two renders of one text, and says that they differ at
most in the declarations and in the name that an error shows.
-/

set_option autoImplicit false

namespace BundleHardening.Hardener

variable {t : Text} (h : Hardener) (chunk : Chunk)

/-- What the hardener puts in front of a hardened text. -/
def front : Text :=
  if h.declares then SafeBindings.declarations else []

/-- A render of a text gives what the rules decide, behind what is put in front. -/
theorem result_render (ht : t ≠ []) :
    (h.render t chunk).result =
      ((MainChunk.decision t).mapError (·.error chunk.context)).map (h.front ++ ·) := by
  have hnonempty : t.isEmpty = false := by simpa using ht
  have hresult := MainChunk.result_apply_eq_decision t chunk.context
  rw [render, hnonempty, if_neg Bool.false_ne_true, Run.bind_eq, ← hresult, front]
  generalize MainChunk.rules.apply t chunk.context = r
  obtain ⟨events, result⟩ := r
  cases result with
  | error e => rfl
  | ok out =>
    cases h.declares with
    | true => simp only [Run.ok_andThen, if_true]; rfl
    | false => simp only [Run.ok_andThen, Bool.false_eq_true, if_false]; rfl

/-- A render fails only where the rules refuse the text, and with their refusal. -/
theorem exists_refusal_of_error {e : RewriteError} (he : (h.render t chunk).result = .error e) :
    ∃ r, MainChunk.decision t = .error r ∧ e = r.error chunk.context := by
  cases t with
  | nil => cases he
  | cons c t =>
    rw [result_render h chunk (List.cons_ne_nil c t)] at he
    cases hdecision : MainChunk.decision (c :: t) with
    | ok out =>
      rw [hdecision] at he
      cases he
    | error r =>
      rw [hdecision] at he
      exact ⟨r, rfl, (Except.error.inj he).symm⟩

/-- The hardened text behind what the hardener puts in front. -/
def behindFront? (out : Text) : Option Text :=
  Text.after? h.front out

/-- Two renders of a text both succeed or both fail, whatever the chunk is called and whether or not
declarations are put in front.  When they succeed, the same text stands behind what is put in front; when they
fail, the errors differ at most in the name of the chunk. -/
theorem render_alike (ht : t ≠ []) (h₁ h₂ : Hardener) (c₁ c₂ : Chunk) :
    ((∃ out, (h₁.render t c₁).result = .ok out) ↔ ∃ out, (h₂.render t c₂).result = .ok out) ∧
    (∀ out₁ out₂, (h₁.render t c₁).result = .ok out₁ → (h₂.render t c₂).result = .ok out₂ →
      ∃ body, h₁.behindFront? out₁ = some body ∧ h₂.behindFront? out₂ = some body) ∧
    (∀ e₁ e₂, (h₁.render t c₁).result = .error e₁ → (h₂.render t c₂).result = .error e₂ →
      ∃ index rule pattern source,
        e₁ = .mismatch index rule pattern c₁.context.displayName source ∧
        e₂ = .mismatch index rule pattern c₂.context.displayName source) := by
  rw [result_render h₁ c₁ ht, result_render h₂ c₂ ht]
  cases MainChunk.decision t with
  | ok body =>
    refine ⟨⟨fun _ => ⟨_, rfl⟩, fun _ => ⟨_, rfl⟩⟩, fun out₁ out₂ hout₁ hout₂ => ?_, nofun⟩
    cases hout₁
    cases hout₂
    exact ⟨body, Text.after?_eq_some_iff.mpr rfl, Text.after?_eq_some_iff.mpr rfl⟩
  | error r =>
    refine ⟨⟨nofun, nofun⟩, nofun, fun e₁ e₂ he₁ he₂ => ?_⟩
    cases he₁
    cases he₂
    exact ⟨some r.index, r.rule.name, r.rule.target.written, r.source, rfl, rfl⟩

/-- A small chunk with a name and declarations in front, compared with the chunk alone. -/
theorem render_alike_sample :
    MainChunk.sample ≠ [] ∧
    (render {} MainChunk.sample {}).result = .ok MainChunk.hardenedSample ∧
    (render { declares := true } MainChunk.sample { name := some "main" }).result =
      .ok (SafeBindings.declarations ++ MainChunk.hardenedSample) := by
  have hne : MainChunk.sample ≠ [] := by decide
  have hnone : front {} = [] := if_neg Bool.false_ne_true
  have hsome : front { declares := true } = SafeBindings.declarations := if_pos rfl
  have hplain : (render {} MainChunk.sample {}).result = .ok MainChunk.hardenedSample := by
    rw [result_render _ _ hne, ← MainChunk.result_apply_eq_decision, Chunk.context,
      MainChunk.result_apply_sample, hnone]
    rfl
  obtain ⟨hboth, hbody, -⟩ := render_alike hne {} { declares := true } {} { name := some "main" }
  obtain ⟨out, hout⟩ := hboth.mp ⟨_, hplain⟩
  obtain ⟨body, hplainBody, hdeclared⟩ := hbody _ _ hplain hout
  have hplainEq := Text.after?_eq_some_iff.mp hplainBody
  have hdeclaredEq := Text.after?_eq_some_iff.mp hdeclared
  rw [hnone, List.nil_append] at hplainEq
  rw [hsome, ← hplainEq] at hdeclaredEq
  rw [hout, hdeclaredEq]
  exact ⟨hne, hplain, rfl⟩

end BundleHardening.Hardener
