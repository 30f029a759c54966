import BundleHardening.Pattern.Node
import Mathlib.Data.List.Basic

/-!
# Stages of work

`Node.stages` lists what can be left to do while a piece of work is done, in any order of its
choices.  There are as many stages as the work has places (`length_stages`), and one step from a
stage leads to a stage again or to the end of the work (`covers_stages`).
-/

set_option autoImplicit false

namespace BundleHardening.Node

/-- What can be left one step later. -/
def follows : Node → List Node → List (List Node)
  | nothing, rest | eat _, rest | look _, rest | mark _, rest => [rest]
  | seq a b, rest => [a :: b :: rest]
  | fork _ a b, rest => [a :: rest, b :: rest]
  | copies 0 _, rest => [rest]
  | copies (n + 1) body, rest => [body :: copies n body :: rest]
  | upTo _ 0 _ _, rest => [rest]
  | upTo label (n + 1) greedy body, rest => [body :: upTo label n greedy body :: rest, rest]
  | loop label greedy body, rest => [body :: loop label greedy body :: rest, rest]

/-- What can be left during counted rounds of a body: `again n` is the work of `n` rounds, and `inside`
what can be left inside the body. -/
def rounds (again : Nat → Node) (inside : List Node → List (List Node)) (rest : List Node) :
    Nat → List (List Node)
  | 0 => [again 0 :: rest]
  | n + 1 => (again (n + 1) :: rest) :: (inside (again n :: rest) ++ rounds again inside rest n)

/-- What can be left to do from the beginning of the work until `rest` is left. -/
def stages : Node → List Node → List (List Node)
  | nothing, rest => [nothing :: rest]
  | eat c, rest => [eat c :: rest]
  | look condition, rest => [look condition :: rest]
  | mark slot, rest => [mark slot :: rest]
  | seq a b, rest => (seq a b :: rest) :: (a.stages (b :: rest) ++ b.stages rest)
  | fork label a b, rest => (fork label a b :: rest) :: (a.stages rest ++ b.stages rest)
  | copies n body, rest => rounds (copies · body) body.stages rest n
  | upTo label n greedy body, rest => rounds (upTo label · greedy body) body.stages rest n
  | loop label greedy body, rest =>
    (loop label greedy body :: rest) :: body.stages (loop label greedy body :: rest)

theorem length_rounds {again : Nat → Node} {inside : List Node → List (List Node)} {size : Nat}
    (hi : ∀ rest, (inside rest).length = size) (rest : List Node) :
    ∀ n, (rounds again inside rest n).length = n * (size + 1) + 1
  | 0 => by simp [rounds]
  | n + 1 => by
    simp only [rounds, List.length_cons, List.length_append, hi, length_rounds hi rest n]
    rw [Nat.add_mul]
    omega

theorem length_stages (n : Node) : ∀ rest, (n.stages rest).length = n.places := by
  induction n with
  | nothing | eat _ | look _ | mark _ => exact fun _ => rfl
  | seq a b iha ihb => intro rest; simp [stages, places, iha, ihb]
  | fork label a b iha ihb => intro rest; simp [stages, places, iha, ihb]
  | copies n body ih => exact fun rest => length_rounds ih rest n
  | upTo label n greedy body ih => exact fun rest => length_rounds ih rest n
  | loop label greedy body ih => intro rest; simp [stages, places, ih]

theorem self_mem_rounds (again : Nat → Node) (inside : List Node → List (List Node))
    (rest : List Node) : ∀ n, again n :: rest ∈ rounds again inside rest n
  | 0 => List.mem_cons_self
  | _ + 1 => List.mem_cons_self

theorem self_mem_stages (n : Node) (rest : List Node) : n :: rest ∈ n.stages rest := by
  cases n with
  | copies n body => exact self_mem_rounds (copies · body) _ rest n
  | upTo label n greedy body => exact self_mem_rounds (upTo label · greedy body) _ rest n
  | _ => exact List.mem_cons_self

/-- What is left one step later is a stage again, or all that was to be left. -/
def Covers (stages : List (List Node)) (rest : List Node) : Prop :=
  ∀ node todo, node :: todo ∈ stages → ∀ next ∈ follows node todo, next ∈ stages ∨ next = rest

theorem Covers.append {s s' : List (List Node)} {middle rest : List Node} (h : Covers s middle)
    (h' : Covers s' rest) (hm : middle ∈ s') : Covers (s ++ s') rest := by
  intro node todo hmem next hnext
  rcases List.mem_append.mp hmem with hmem | hmem
  · rcases h node todo hmem next hnext with hin | rfl
    · exact Or.inl (List.mem_append_left _ hin)
    · exact Or.inl (List.mem_append_right _ hm)
  · exact (h' node todo hmem next hnext).imp_left (List.mem_append_right _)

theorem Covers.cons {s : List (List Node)} {node : Node} {todo rest : List Node}
    (h : Covers s rest) (hf : ∀ next ∈ follows node todo, next ∈ s ∨ next = rest) :
    Covers ((node :: todo) :: s) rest := by
  intro node' todo' hmem next hnext
  rcases List.mem_cons.mp hmem with heq | hmem
  · cases heq
    exact (hf next hnext).imp_left (List.mem_cons_of_mem _)
  · exact (h node' todo' hmem next hnext).imp_left (List.mem_cons_of_mem _)

theorem covers_one {node : Node} {rest : List Node} (h : follows node rest = [rest]) :
    Covers [node :: rest] rest := by
  intro node' todo hmem next hnext
  cases List.mem_singleton.mp hmem
  rw [h] at hnext
  exact Or.inr (List.mem_singleton.mp hnext)

theorem covers_rounds (again : Nat → Node) {body : Node}
    (ih : ∀ rest, Covers (body.stages rest) rest) (rest : List Node)
    (h0 : follows (again 0) rest = [rest])
    (hs : ∀ n, ∀ next ∈ follows (again (n + 1)) rest,
      next = body :: again n :: rest ∨ next = rest) :
    ∀ n, Covers (rounds again body.stages rest n) rest
  | 0 => covers_one h0
  | n + 1 => by
    refine ((ih _).append (covers_rounds again ih rest h0 hs n) (self_mem_rounds ..)).cons ?_
    intro next hnext
    refine (hs n next hnext).imp_left ?_
    rintro rfl
    exact List.mem_append_left _ (self_mem_stages body _)

theorem covers_stages (n : Node) : ∀ rest, Covers (n.stages rest) rest := by
  induction n with
  | nothing | eat _ | look _ | mark _ => exact fun _ => covers_one rfl
  | seq a b iha ihb =>
    intro rest
    refine ((iha _).append (ihb rest) (self_mem_stages b rest)).cons ?_
    intro next hnext
    cases List.mem_singleton.mp hnext
    exact Or.inl (List.mem_append_left _ (self_mem_stages a _))
  | fork label a b iha ihb =>
    intro rest node todo hmem next hnext
    simp only [stages, List.mem_cons, List.mem_append] at hmem ⊢
    rcases hmem with heq | hmem | hmem
    · cases heq
      rcases List.mem_pair.mp hnext with rfl | rfl
      · exact Or.inl (Or.inr (Or.inl (self_mem_stages a rest)))
      · exact Or.inl (Or.inr (Or.inr (self_mem_stages b rest)))
    · exact (iha rest node todo hmem next hnext).imp_left fun h => Or.inr (Or.inl h)
    · exact (ihb rest node todo hmem next hnext).imp_left fun h => Or.inr (Or.inr h)
  | copies n body ih =>
    refine fun rest => covers_rounds (copies · body) ih rest rfl ?_ n
    exact fun n next hnext => Or.inl (List.mem_singleton.mp hnext)
  | upTo label n greedy body ih =>
    refine fun rest => covers_rounds (upTo label · greedy body) ih rest rfl ?_ n
    exact fun n next hnext => List.mem_pair.mp hnext
  | loop label greedy body ih =>
    intro rest node todo hmem next hnext
    simp only [stages, List.mem_cons] at hmem ⊢
    rcases hmem with heq | hmem
    · cases heq
      rcases List.mem_pair.mp hnext with rfl | rfl
      · exact Or.inl (Or.inr (self_mem_stages body _))
      · exact Or.inr rfl
    · exact Or.inl ((ih _ node todo hmem next hnext).symm)

end BundleHardening.Node
