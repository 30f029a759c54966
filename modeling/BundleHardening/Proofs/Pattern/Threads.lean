import BundleHardening.Proofs.Pattern.Stages
import BundleHardening.Proofs.Pattern.Ways
import Mathlib.Data.List.Perm.Subperm

/-!
# Matching in one pass finds the preferred way

`Search.run_eq`: for work whose loops take a character in each round, following all threads at once
gives the marks of the preferred way at the first position where there is one.  Two arguments carry
this.

*Enough room.*  A thread is dropped when its work was met before at the same position, so each of
the stages of the work splits at most once, into at most two threads, and `Front.gather` never runs
out of fuel.

*Dropping is harmless.*  Work met before either fails or has led to a thread that waits ahead of all
others.  This does not hold while the threads that it split into are still at the front of the list;
but these are nearer to the next character, which `Node.rank` measures, so they never bring forth
the same work again.
-/

set_option autoImplicit false

namespace BundleHardening

open Ending

namespace Node

/-- The ways to do all of a list of work. -/
def triesAll : List Node → Ending
  | [] => final
  | node :: rest => node.tries (triesAll rest)

theorem blind_triesAll : ∀ todo : List Node, (triesAll todo).Blind
  | [] => fun _ _ _ => rfl
  | node :: rest => node.blind_tries (blind_triesAll rest)

/-- A bound on the number of steps to the next character. -/
def depth : Node → Nat
  | nothing | look _ | mark _ => 1
  | eat _ => 0
  | seq first second => first.depth + (bif first.nullable then second.depth else 0) + 1
  | fork _ first second => first.depth + second.depth + 1
  | copies count body => count * (body.depth + 1) + 1
  | upTo _ count _ body => count * (body.depth + 1) + 1
  | loop _ _ body => body.depth + 1

/-- A bound on the number of steps to the next character, over a list of work. -/
def rank : List Node → Nat
  | [] => 0
  | node :: rest => node.depth + bif node.nullable then rank rest else 0

/-- Whether the work waits for a character. -/
def waits : Node → Bool
  | eat _ => true
  | _ => false

theorem eq_eat_of_waits {node : Node} (h : node.waits = true) : ∃ c, node = .eat c := by
  cases node with
  | eat c => exact ⟨c, rfl⟩
  | _ => cases h

/-- A step that takes no character comes nearer to the next one. -/
theorem rank_follows {node : Node} (hadv : node.advancing = true) (hw : node.waits = false)
    {rest next : List Node} (h : next ∈ follows node rest) : rank next < rank (node :: rest) := by
  cases node with
  | eat c => cases hw
  | nothing | look _ | mark _ =>
    cases List.mem_singleton.mp h
    simp [rank, depth, nullable]
  | seq a b =>
    cases List.mem_singleton.mp h
    simp only [rank, depth, nullable]
    cases a.nullable <;> cases b.nullable <;> simp
    all_goals omega
  | fork label a b =>
    rcases List.mem_pair.mp h with rfl | rfl
    all_goals
      simp only [rank, depth, nullable]
      cases a.nullable <;> cases b.nullable <;> simp
      all_goals omega
  | copies n body =>
    cases n with
    | zero =>
      cases List.mem_singleton.mp h
      simp [rank, depth, nullable]
    | succ n =>
      cases List.mem_singleton.mp h
      simp only [rank, depth, nullable, Nat.add_mul]
      cases body.nullable <;> simp <;> omega
  | upTo label n greedy body =>
    cases n with
    | zero =>
      cases List.mem_singleton.mp h
      simp [rank, depth, nullable]
    | succ n =>
      rcases List.mem_pair.mp h with rfl | rfl
      all_goals
        simp only [rank, depth, nullable, Nat.add_mul]
        cases body.nullable <;> simp <;> omega
  | loop label greedy body =>
    have hb : body.nullable = false := by simp_all [advancing]
    rcases List.mem_pair.mp h with rfl | rfl
    all_goals
      simp [rank, depth, nullable, hb]
      try omega

/-- Lists of work that are closed under steps, all of it advancing. -/
structure Closed (all : List (List Node)) : Prop where
  follows_mem : ∀ node rest, node :: rest ∈ all → ∀ next ∈ follows node rest, next ∈ all
  advancing : ∀ todo ∈ all, ∀ node ∈ todo, node.advancing = true

theorem advancing_rounds (again : Nat → Node) {body : Node}
    (ih : ∀ rest : List Node, (∀ m ∈ rest, m.advancing = true) →
      ∀ todo ∈ body.stages rest, ∀ m ∈ todo, m.advancing = true)
    (ha : ∀ n, (again n).advancing = true) {rest : List Node}
    (hr : ∀ m ∈ rest, m.advancing = true) :
    ∀ n, ∀ todo ∈ rounds again body.stages rest n, ∀ m ∈ todo, m.advancing = true
  | 0 => by simpa [rounds] using And.intro (ha 0) hr
  | n + 1 => by
    intro todo hmem
    simp only [rounds, List.mem_cons, List.mem_append] at hmem
    rcases hmem with rfl | hmem | hmem
    · exact List.forall_mem_cons.mpr ⟨ha _, hr⟩
    · exact ih _ (List.forall_mem_cons.mpr ⟨ha _, hr⟩) todo hmem
    · exact advancing_rounds again ih ha hr n todo hmem

theorem advancing_stages (n : Node) : n.advancing = true → ∀ rest : List Node,
    (∀ m ∈ rest, m.advancing = true) →
      ∀ todo ∈ n.stages rest, ∀ m ∈ todo, m.advancing = true := by
  induction n with
  | nothing | eat _ | look _ | mark _ =>
    intro h rest hr todo hmem
    cases List.mem_singleton.mp hmem
    exact List.forall_mem_cons.mpr ⟨h, hr⟩
  | seq a b iha ihb =>
    intro h rest hr todo hmem
    obtain ⟨ha, hb⟩ := Bool.and_eq_true_iff.mp h
    simp only [stages, List.mem_cons, List.mem_append] at hmem
    rcases hmem with rfl | hmem | hmem
    · exact List.forall_mem_cons.mpr ⟨h, hr⟩
    · exact iha ha _ (List.forall_mem_cons.mpr ⟨hb, hr⟩) todo hmem
    · exact ihb hb _ hr todo hmem
  | fork label a b iha ihb =>
    intro h rest hr todo hmem
    obtain ⟨ha, hb⟩ := Bool.and_eq_true_iff.mp h
    simp only [stages, List.mem_cons, List.mem_append] at hmem
    rcases hmem with rfl | hmem | hmem
    · exact List.forall_mem_cons.mpr ⟨h, hr⟩
    · exact iha ha _ hr todo hmem
    · exact ihb hb _ hr todo hmem
  | copies n body ih =>
    exact fun h rest hr => advancing_rounds (copies · body) (ih h) (fun _ => h) hr n
  | upTo label n greedy body ih =>
    exact fun h rest hr =>
      advancing_rounds (upTo label · greedy body) (ih h) (fun _ => h) hr n
  | loop label greedy body ih =>
    intro h rest hr todo hmem
    have hb : body.advancing = true := (Bool.and_eq_true_iff.mp h).1
    simp only [stages, List.mem_cons] at hmem
    rcases hmem with rfl | hmem
    · exact List.forall_mem_cons.mpr ⟨h, hr⟩
    · exact ih hb _ (List.forall_mem_cons.mpr ⟨h, hr⟩) todo hmem

/-- Everything that can be left to do during a search for the given work. -/
def goals (root : Node) : List (List Node) :=
  [] :: root.stages []

theorem length_goals (root : Node) : root.goals.length = root.places + 1 := by
  simp [goals, length_stages]

theorem self_mem_goals (root : Node) : [root] ∈ root.goals :=
  List.mem_cons_of_mem _ (self_mem_stages root [])

theorem closed_goals {root : Node} (h : root.advancing = true) : Closed root.goals where
  follows_mem node rest hmem next hnext := by
    have hmem : node :: rest ∈ root.stages [] := by simpa [goals] using hmem
    rcases covers_stages root [] node rest hmem next hnext with hin | rfl
    · exact List.mem_cons_of_mem _ hin
    · exact List.mem_cons_self
  advancing todo hmem := by
    rcases List.mem_cons.mp hmem with rfl | hmem
    · exact fun m hm => absurd hm List.not_mem_nil
    · exact advancing_stages root h [] (fun m hm => absurd hm List.not_mem_nil) todo hmem

end Node

open Node

namespace Thread

/-- The marks of the preferred way to do what is left of a thread. -/
def answer (here : Cursor) (t : Thread) : Option Marks :=
  triesAll t.todo here t.marks

theorem isSome_answer (here : Cursor) (t : Thread) :
    (t.answer here).isSome = (triesAll t.todo here []).isSome :=
  blind_triesAll t.todo here t.marks []

theorem todo_unfold {here : Cursor} {node : Node} {rest : List Node} {marks : Marks} {t : Thread}
    (h : t ∈ unfold here node rest marks) : t.todo ∈ follows node rest := by
  cases node with
  | eat c => cases h
  | look condition =>
    simp only [unfold] at h
    split at h
    · cases List.mem_singleton.mp h
      exact List.mem_singleton_self _
    · cases h
  | copies n body => cases n <;> simp_all [unfold, follows]
  | upTo label n greedy body =>
    cases n <;> cases greedy <;> simp only [unfold, follows] at h ⊢ <;> aesop
  | loop label greedy body => cases greedy <;> simp only [unfold, follows] at h ⊢ <;> aesop
  | nothing | mark _ | seq _ _ | fork _ _ _ => simp only [unfold, follows] at h ⊢; aesop

/-- Lists of work that are closed under steps have the work of the threads that a thread splits into. -/
theorem todo_mem_of_closed {all : List (List Node)} (hall : Closed all) {here : Cursor} {node : Node}
    {rest : List Node} {marks : Marks} (h : node :: rest ∈ all) :
    ∀ t ∈ unfold here node rest marks, t.todo ∈ all :=
  fun _ ht => hall.follows_mem node rest h _ (todo_unfold ht)

theorem length_unfold (here : Cursor) (node : Node) (rest : List Node) (marks : Marks) :
    (unfold here node rest marks).length ≤ 2 := by
  cases node with
  | look condition => simp only [unfold]; split <;> simp
  | copies n body => cases n <;> simp [unfold]
  | upTo label n greedy body => cases n <;> cases greedy <;> simp [unfold]
  | loop label greedy body => cases greedy <;> simp [unfold]
  | _ => simp [unfold]

/-- The threads that a thread splits into come to what it comes to. -/
theorem answer_unfold (here : Cursor) {node : Node} (hw : node.waits = false)
    (hadv : node.advancing = true) (rest : List Node) (marks : Marks) :
    (unfold here node rest marks).findSome? (answer here) =
      triesAll (node :: rest) here marks := by
  have pair (a b : Thread) : [a, b].findSome? (answer here) = (a.answer here).or (b.answer here) := by
    simp only [List.findSome?_cons, List.findSome?_nil]
    cases a.answer here <;> cases b.answer here <;> rfl
  have single (a : Thread) : [a].findSome? (answer here) = a.answer here := by
    simp only [List.findSome?_cons, List.findSome?_nil]
    cases a.answer here <;> rfl
  cases node with
  | eat c => cases hw
  | nothing | mark _ | seq _ _ => exact single _
  | look condition =>
    simp only [unfold, triesAll, tries, under]
    split
    · exact single _
    · rfl
  | fork label a b => exact pair _ _
  | copies n body => cases n <;> exact single _
  | upTo label n greedy body =>
    cases n with
    | zero => exact single _
    | succ n => cases greedy <;> exact pair _ _
  | loop label greedy body =>
    have hb : body.nullable = false := by simp_all [Node.advancing]
    have round := congrFun (congrFun (loop_eq greedy (hb ▸ body.local_tries) (triesAll rest)) here)
      marks
    refine Eq.trans ?_ round.symm
    cases greedy <;> exact pair _ _

end Thread

open Thread

namespace Front

/-- What a thread that waits for a character comes to. -/
def waitingAnswer (here : Cursor) (w : Class × Thread) : Option Marks :=
  Thread.answer here ⟨.eat w.1 :: w.2.todo, w.2.marks⟩

/-- What the threads of a front come to, the waiting ones being preferred. -/
def answer (here : Cursor) (front : Front) : Option Marks :=
  (front.waiting.findSome? (waitingAnswer here)).or front.matched

/-- Work met before that comes to something has led to a waiting thread that does, or is still being
followed at the front of the list by threads that are nearer to the next character. -/
def Settled (here : Cursor) (seen : List (List Node)) (waiting : List (Class × Thread))
    (threads : List Thread) : Prop :=
  ∀ todo ∈ seen, (triesAll todo here []).isSome →
    (∃ w ∈ waiting, (waitingAnswer here w).isSome) ∨
      ∃ near far, threads = near ++ far ∧ (∀ t ∈ near, rank t.todo < rank todo) ∧
        ∃ t ∈ near, (t.answer here).isSome

variable {here : Cursor} {seen : List (List Node)} {waiting : List (Class × Thread)}
  {thread : Thread} {threads : List Thread}

/-- A thread whose work was met before is not needed: if it comes to something, so does a waiting one. -/
theorem Settled.of_mem (h : Settled here seen waiting (thread :: threads))
    (hmem : thread.todo ∈ seen) (hs : (thread.answer here).isSome) :
    ∃ w ∈ waiting, (waitingAnswer here w).isSome := by
  rcases h thread.todo hmem (thread.isSome_answer here ▸ hs) with hw | ⟨near, far, heq, hr, t, ht, _⟩
  · exact hw
  · cases near with
    | nil => cases ht
    | cons t' near =>
      obtain ⟨rfl, -⟩ := List.cons.inj heq
      exact absurd (hr thread List.mem_cons_self) (Nat.lt_irrefl _)

/-- Putting other threads into the place of the first one keeps work settled, if they come to something
when it did and are not farther from the next character. -/
theorem Settled.replace (h : Settled here seen waiting (thread :: threads))
    {waiting' : List (Class × Thread)} {new : List Thread}
    (hw : ∀ w ∈ waiting, w ∈ waiting')
    (hn : ∀ t ∈ new, rank t.todo ≤ rank thread.todo)
    (hs : (thread.answer here).isSome →
      (∃ w ∈ waiting', (waitingAnswer here w).isSome) ∨ ∃ t ∈ new, (t.answer here).isSome) :
    Settled here seen waiting' (new ++ threads) := by
  intro todo hmem htodo
  rcases h todo hmem htodo with ⟨w, hwm, hws⟩ | ⟨near, far, heq, hr, t, ht, hts⟩
  · exact Or.inl ⟨w, hw w hwm, hws⟩
  · cases near with
    | nil => cases ht
    | cons t' near =>
      obtain ⟨rfl, rfl⟩ := List.cons.inj heq
      have hnear : ∀ u ∈ new ++ near, rank u.todo < rank todo := by
        intro u hu
        rcases List.mem_append.mp hu with hu | hu
        · exact Nat.lt_of_le_of_lt (hn u hu) (hr _ List.mem_cons_self)
        · exact hr u (List.mem_cons_of_mem _ hu)
      have heq' : new ++ (near ++ far) = (new ++ near) ++ far := (List.append_assoc ..).symm
      rcases List.mem_cons.mp ht with rfl | ht
      · rcases hs hts with hw | ⟨u, hu, hus⟩
        · exact Or.inl hw
        · exact Or.inr ⟨_, far, heq', hnear, u, List.mem_append_left _ hu, hus⟩
      · exact Or.inr ⟨_, far, heq', hnear, t, List.mem_append_right _ ht, hts⟩

/-- A dropped thread leaves work settled. -/
theorem Settled.drop (h : Settled here seen waiting (thread :: threads))
    (hmem : thread.todo ∈ seen) : Settled here seen waiting threads :=
  (h.replace (fun _ hw => hw) (fun _ ht => absurd ht List.not_mem_nil)
    fun hs => Or.inl (h.of_mem hmem hs) : Settled here seen waiting ([] ++ threads))

variable {node : Node} {rest : List Node} {marks : Marks}

/-- A thread that begins to wait leaves work settled. -/
theorem Settled.wait {c : Class}
    (h : Settled here seen waiting (⟨.eat c :: rest, marks⟩ :: threads)) :
    Settled here ((.eat c :: rest) :: seen) ((c, ⟨rest, marks⟩) :: waiting) threads := by
  refine List.forall_mem_cons.mpr ⟨fun hs => Or.inl ⟨_, List.mem_cons_self, ?_⟩, ?_⟩
  · exact (isSome_answer here ⟨.eat c :: rest, marks⟩).trans hs
  · exact (h.replace (fun _ => List.mem_cons_of_mem _) (fun _ ht => absurd ht List.not_mem_nil)
      fun hs => Or.inl ⟨_, List.mem_cons_self, hs⟩ :
        Settled here seen ((c, ⟨rest, marks⟩) :: waiting) ([] ++ threads))

/-- A thread that splits leaves work settled. -/
theorem Settled.split (h : Settled here seen waiting (⟨node :: rest, marks⟩ :: threads))
    (hw : node.waits = false) (hadv : node.advancing = true) :
    Settled here ((node :: rest) :: seen) waiting (unfold here node rest marks ++ threads) := by
  have hnear : ∀ t ∈ unfold here node rest marks, rank t.todo < rank (node :: rest) :=
    fun t ht => rank_follows hadv hw (todo_unfold ht)
  have hsome (hs : (Thread.answer here ⟨node :: rest, marks⟩).isSome) :
      ∃ t ∈ unfold here node rest marks, (t.answer here).isSome :=
    List.findSome?_isSome_iff.mp (answer_unfold here hw hadv rest marks ▸ hs)
  refine List.forall_mem_cons.mpr ⟨fun hs => Or.inr ⟨_, threads, rfl, hnear, hsome ?_⟩, ?_⟩
  · exact (isSome_answer here ⟨node :: rest, marks⟩).trans hs
  · exact h.replace (fun _ hw => hw) (fun t ht => Nat.le_of_lt (hnear t ht))
      fun hs => Or.inr (hsome hs)

theorem gather_of_mem (fuel : Nat) (h : thread.todo ∈ seen) :
    gather here (fuel + 1) (thread :: threads) seen waiting =
      gather here fuel threads seen waiting := by
  rw [gather, if_pos (by simpa using h)]

theorem gather_nil (fuel : Nat) (h : [] ∉ seen) :
    gather here (fuel + 1) (⟨[], marks⟩ :: threads) seen waiting =
      ⟨waiting.reverse, some marks⟩ := by
  rw [gather, if_neg (by simpa using h)]

theorem gather_eat (fuel : Nat) {c : Class} (h : .eat c :: rest ∉ seen) :
    gather here (fuel + 1) (⟨.eat c :: rest, marks⟩ :: threads) seen waiting =
      gather here fuel threads ((.eat c :: rest) :: seen) ((c, ⟨rest, marks⟩) :: waiting) := by
  rw [gather, if_neg (by simpa using h)]

theorem gather_step (fuel : Nat) (hw : node.waits = false) (h : node :: rest ∉ seen) :
    gather here (fuel + 1) (⟨node :: rest, marks⟩ :: threads) seen waiting =
      gather here fuel (unfold here node rest marks ++ threads) ((node :: rest) :: seen)
        waiting := by
  rw [gather, if_neg (by simpa using h)]
  cases node with
  | eat c => cases hw
  | _ => rfl

/-- A thread whose work was met before adds nothing to what those before it come to. -/
theorem Settled.findSome?_drop {seen : List (List Node)} {waiting : List (Class × Thread)}
    {thread : Thread} {threads : List Thread} (hset : Settled here seen waiting (thread :: threads))
    (hseen : thread.todo ∈ seen) :
    (waiting.reverse.findSome? (waitingAnswer here)).or
        ((thread :: threads).findSome? (Thread.answer here)) =
      (waiting.reverse.findSome? (waitingAnswer here)).or
        (threads.findSome? (Thread.answer here)) := by
  rw [List.findSome?_cons]
  cases hs : thread.answer here with
  | none => rfl
  | some marks =>
    obtain ⟨w, hw, hws⟩ := hset.of_mem hseen (by simp [hs])
    have hfirst := List.findSome?_isSome_iff.mpr ⟨w, List.mem_reverse.mpr hw, hws⟩
    obtain ⟨marks', hm⟩ := Option.isSome_iff_exists.mp hfirst
    simp only [hm, Option.some_or]

/-- Running the threads up to the next character keeps what they come to, as long as there is room for
all work that has not been met. -/
theorem answer_gather {all : List (List Node)} (hall : Closed all) :
    ∀ (fuel : Nat) (threads : List Thread) (seen : List (List Node))
      (waiting : List (Class × Thread)),
      (∀ t ∈ threads, t.todo ∈ all) → seen.Nodup → seen ⊆ all →
      threads.length + 2 * (all.length - seen.length) < fuel →
      Settled here seen waiting threads →
      (gather here fuel threads seen waiting).answer here =
        (waiting.reverse.findSome? (waitingAnswer here)).or
          (threads.findSome? (Thread.answer here)) := by
  intro fuel
  induction fuel with
  | zero => intro threads seen waiting _ _ _ hf; omega
  | succ fuel ih =>
    intro threads seen waiting hmem hnd hsub hf hset
    cases threads with
    | nil => rfl
    | cons thread threads =>
      obtain ⟨hthread, hthreads⟩ := List.forall_mem_cons.mp hmem
      simp only [List.length_cons] at hf
      by_cases hseen : thread.todo ∈ seen
      · rw [gather_of_mem fuel hseen,
          ih threads seen waiting hthreads hnd hsub (by omega) (hset.drop hseen),
          hset.findSome?_drop hseen]
      · have hnd' : (thread.todo :: seen).Nodup := List.nodup_cons.mpr ⟨hseen, hnd⟩
        have hsub' : thread.todo :: seen ⊆ all := List.cons_subset.mpr ⟨hthread, hsub⟩
        have hroom : seen.length + 1 ≤ all.length := (hnd'.subperm hsub').length_le
        obtain ⟨_ | ⟨node, rest⟩, marks⟩ := thread
        · rw [gather_nil fuel hseen]
          rfl
        have hadv : node.advancing = true := hall.advancing _ hthread node List.mem_cons_self
        cases hw : node.waits with
        | true =>
          obtain ⟨c, rfl⟩ := eq_eat_of_waits hw
          rw [gather_eat fuel hseen,
            ih threads _ _ hthreads hnd' hsub' (by simp only [List.length_cons]; omega) hset.wait,
            List.reverse_cons, List.findSome?_append, List.findSome?_cons, List.findSome?_cons,
            List.findSome?_nil, waitingAnswer]
          cases Thread.answer here ⟨.eat c :: rest, marks⟩ <;> simp
        | false =>
          have hmem' : ∀ t ∈ unfold here node rest marks ++ threads, t.todo ∈ all :=
            List.forall_mem_append.mpr ⟨todo_mem_of_closed hall hthread, hthreads⟩
          have hlen := length_unfold here node rest marks
          rw [gather_step fuel hw hseen,
            ih _ _ _ hmem' hnd' hsub' (by simp only [List.length_append, List.length_cons]; omega)
              (hset.split hw hadv),
            List.findSome?_append, answer_unfold here hw hadv, List.findSome?_cons, Thread.answer]
          cases triesAll (node :: rest) here marks <;> rfl

/-- The threads that come to wait have work of the same kind left. -/
theorem waiting_gather {all : List (List Node)} (hall : Closed all) :
    ∀ (fuel : Nat) (threads : List Thread) (seen : List (List Node))
      (waiting : List (Class × Thread)),
      (∀ t ∈ threads, t.todo ∈ all) → (∀ w ∈ waiting, w.2.todo ∈ all) →
      ∀ w ∈ (gather here fuel threads seen waiting).waiting, w.2.todo ∈ all := by
  intro fuel
  induction fuel with
  | zero => exact fun _ _ _ _ hw w hmem => hw w (List.mem_reverse.mp hmem)
  | succ fuel ih =>
    intro threads seen waiting ht hw
    cases threads with
    | nil => exact fun w hmem => hw w (List.mem_reverse.mp hmem)
    | cons thread threads =>
      obtain ⟨hthread, hthreads⟩ := List.forall_mem_cons.mp ht
      by_cases hseen : thread.todo ∈ seen
      · rw [gather_of_mem fuel hseen]
        exact ih threads seen waiting hthreads hw
      obtain ⟨_ | ⟨node, rest⟩, marks⟩ := thread
      · rw [gather_nil fuel hseen]
        exact fun w hmem => hw w (List.mem_reverse.mp hmem)
      cases hwait : node.waits with
      | true =>
        obtain ⟨c, rfl⟩ := eq_eat_of_waits hwait
        rw [gather_eat fuel hseen]
        have hrest : rest ∈ all :=
          hall.follows_mem (.eat c) rest hthread rest (List.mem_singleton_self _)
        exact ih threads _ _ hthreads (List.forall_mem_cons.mpr ⟨hrest, hw⟩)
      | false =>
        rw [gather_step fuel hwait hseen]
        exact ih _ _ _ (List.forall_mem_append.mpr ⟨todo_mem_of_closed hall hthread, hthreads⟩) hw

/-- Threads that have taken a character come to what they came to while they waited for it. -/
theorem answer_taking (front : Front) {c : Char} {text : Text} (h : here.rest = c :: text) :
    (front.taking c).findSome? (Thread.answer (here.ahead 1)) =
      front.waiting.findSome? (waitingAnswer here) := by
  rw [taking]
  induction front.waiting with
  | nil => rfl
  | cons w waiting ih =>
    have hw : waitingAnswer here w =
        if w.1.contains c then Thread.answer (here.ahead 1) w.2 else none := by
      simp only [waitingAnswer, Thread.answer, triesAll, tries, one, h]
    rw [List.findSome?_cons, hw, ← ih]
    cases hc : w.1.contains c <;>
      simp only [List.filterMap_cons, hc, Bool.false_eq_true, ↓reduceIte, List.findSome?_cons]

/-- At the end of the text no thread that waits comes to anything. -/
theorem answer_end (front : Front) (h : here.rest = []) : front.answer here = front.matched := by
  have hnone : front.waiting.findSome? (waitingAnswer here) = none := by
    simp [waitingAnswer, Thread.answer, triesAll, tries, one, h]
  rw [answer, hnone, Option.none_or]

end Front

namespace Search

/-- The marks of the preferred way to match at the first position, from the given one on, where there is
a way. -/
def earliest (root : Node) (here : Cursor) : Option Marks :=
  (List.range (here.rest.length + 1)).findSome? fun i => root.tries final (here.ahead i) []

/-- The same behind the given position. -/
def later (root : Node) (here : Cursor) : Option Marks :=
  match here.rest with
  | [] => none
  | _ :: _ => earliest root (here.ahead 1)

theorem earliest_eq (root : Node) (here : Cursor) :
    earliest root here = (root.tries final here []).or (later root here) := by
  have hnext (i : Nat) : here.ahead (i + 1) = (here.ahead 1).ahead i := by
    rw [Cursor.ahead_ahead, Nat.add_comm 1]
  have hfirst : earliest root here = (root.tries final here []).or
      ((List.range here.rest.length).findSome? fun i => root.tries final (here.ahead (i + 1)) []) := by
    rw [earliest, List.range_succ_eq_map, List.findSome?_cons, List.findSome?_map,
      Cursor.ahead_zero]
    cases root.tries final here [] <;> rfl
  rw [hfirst, later]
  cases h : here.rest with
  | nil => rfl
  | cons c text =>
    have hlen : (here.ahead 1).rest.length = text.length := by simp [h]
    simp only [earliest, hlen, List.length_cons]
    congr 2
    funext i
    rw [hnext]

variable {search : Search}

theorem answer_front (hroot : search.root.advancing = true)
    (hplaces : search.places = search.root.places) {threads : List Thread}
    (hmem : ∀ t ∈ threads, t.todo ∈ search.root.goals) (here : Cursor) :
    (search.front here threads).answer here = threads.findSome? (Thread.answer here) := by
  refine (Front.answer_gather (closed_goals hroot) _ threads [] [] hmem List.nodup_nil
    (List.nil_subset _) ?_ fun _ h => absurd h List.not_mem_nil).trans (Option.none_or)
  rw [length_goals, hplaces, List.length_nil]
  omega

/-- The work left to the threads of the next position is again work of the search. -/
theorem goals_moved (hroot : search.root.advancing = true) {threads : List Thread}
    (hmem : ∀ t ∈ threads, t.todo ∈ search.root.goals) (here : Cursor) (best : Option Marks)
    (c : Char) :
    ∀ t ∈ { search with best := best }.moved (search.front here threads) c,
      t.todo ∈ search.root.goals := by
  intro t ht
  rcases List.mem_append.mp ht with ht | ht
  · obtain ⟨⟨wanted, thread⟩, hw, hwt⟩ := List.mem_filterMap.mp ht
    have hin := Front.waiting_gather (closed_goals hroot) _ threads [] [] hmem
      (fun _ h => absurd h List.not_mem_nil) _ hw
    have hc : wanted.contains c = true := by
      by_contra hc
      simp [hc] at hwt
    obtain rfl : thread = t := by simpa [hc] using hwt
    exact hin
  · split at ht
    · cases List.mem_singleton.mp ht
      exact self_mem_goals search.root
    · cases ht

theorem answer_moved (front : Front) (c : Char) (next : Cursor) :
    (search.moved front c).findSome? (Thread.answer next) =
      ((front.taking c).findSome? (Thread.answer next)).or
        (if search.open? then search.root.tries final next [] else none) := by
  rw [moved, List.findSome?_append]
  congr 1
  split
  · rw [List.findSome?_cons, List.findSome?_nil, Thread.answer, triesAll, triesAll]
    cases search.root.tries final next [] <;> rfl
  · rfl

/-- Following the threads gives what they come to, else the best match so far, else while nothing has
matched the first later match. -/
theorem follow_eq : ∀ (text : Text) (search : Search) (index : Nat) (before : List Char)
    (threads : List Thread), search.root.advancing = true →
      search.places = search.root.places → (∀ t ∈ threads, t.todo ∈ search.root.goals) →
      search.follow index before threads text =
        ((threads.findSome? (Thread.answer ⟨index, before, text⟩)).or search.best).or
          (if search.open? then later search.root ⟨index, before, text⟩ else none) := by
  intro text
  induction text with
  | nil =>
    intro search index before threads hroot hplaces hmem
    have hend := answer_front hroot hplaces hmem ⟨index, before, []⟩
    rw [Front.answer_end _ rfl] at hend
    simp only [follow, after, hend, later, ite_self, Option.or_none]
    exact Option.orElse_eq_or
  | cons c text ih =>
    intro search index before threads hroot hplaces hmem
    let here : Cursor := ⟨index, before, c :: text⟩
    let front := search.front here threads
    let next := search.after front
    have hfollow : search.follow index before threads (c :: text) =
        (((next.moved front c).findSome? (Thread.answer (here.ahead 1))).or next.best).or
          (if next.open? then later search.root (here.ahead 1) else none) := by
      rw [follow]
      split
      · next hnil =>
        have hopen : next.open? = false := by
          have hnil : next.moved front c = [] := hnil
          by_contra hopen
          simp [moved, hopen] at hnil
        have hnil : next.moved front c = [] := hnil
        rw [hnil, hopen, List.findSome?_nil, Option.none_or, if_neg Bool.false_ne_true,
          Option.or_none]
      · exact ih next (index + 1) (c :: before) (next.moved front c) hroot hplaces
          (goals_moved hroot hmem here next.best c)
    have hthreads : threads.findSome? (Thread.answer here) =
        ((front.taking c).findSome? (Thread.answer (here.ahead 1))).or front.matched := by
      rw [front.answer_taking rfl]
      exact (answer_front hroot hplaces hmem here).symm
    have hnext : next.best = front.matched.or search.best := Option.orElse_eq_or
    have hopen : next.open? = (next.best.isNone && !search.anchored) := rfl
    have hlater : later search.root here =
        (search.root.tries final (here.ahead 1) []).or (later search.root (here.ahead 1)) :=
      earliest_eq search.root (here.ahead 1)
    rw [hfollow, hthreads, hlater, answer_moved, hopen, hnext, open?]
    cases (front.taking c).findSome? (Thread.answer (here.ahead 1)) <;> cases front.matched <;>
      cases search.best <;> cases search.anchored <;> simp [next, after]

/-- Following all threads finds the preferred way at the first position where there is a way. -/
theorem run_eq {root : Node} (hroot : root.advancing = true) (start : Cursor) :
    run root false start = earliest root start := by
  have hmem : ∀ t ∈ [Thread.mk [root] []], t.todo ∈ root.goals := by
    simpa using self_mem_goals root
  refine (follow_eq start.rest _ start.index start.before _ hroot rfl hmem).trans ?_
  rw [earliest_eq]
  simp only [List.findSome?_cons, List.findSome?_nil, Thread.answer, triesAll, open?]
  cases root.tries final start [] <;> rfl

end Search

end BundleHardening
