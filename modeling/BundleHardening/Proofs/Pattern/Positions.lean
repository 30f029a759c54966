import BundleHardening.Proofs.Pattern.Threads

/-!
# Positions in the text that is searched

Matching moves a cursor through one text.  All positions that it records are positions of that text, and
matching in one pass records none before the position where the search began.  Work that ends in
recording where the match ends records no later position than that one
(`Search.recorded_run`).
-/

set_option autoImplicit false

namespace BundleHardening

/-- The cursor is a position of the text. -/
structure Cursor.IsIn (c : Cursor) (t : Text) : Prop where
  around : c.before.reverse ++ c.rest = t
  counted : c.before.length = c.index

namespace Cursor

variable {c d : Cursor} {t : Text}

theorem isIn_start (t : Text) : (start t).IsIn t :=
  ⟨rfl, rfl⟩

namespace IsIn

theorem rest_eq (h : c.IsIn t) : c.rest = t.drop c.index := by
  rw [← h.around, ← h.counted, ← List.length_reverse, List.drop_left]

theorem index_le (h : c.IsIn t) : c.index ≤ t.length := by
  rw [← h.around, ← h.counted]
  simp

/-- The position one character on. -/
theorem forth {index : Nat} {before rest : List Char} {x : Char}
    (h : IsIn ⟨index, before, x :: rest⟩ t) : IsIn ⟨index + 1, x :: before, rest⟩ t where
  around := by simpa using h.around
  counted := by simpa using h.counted

/-- The position one character back. -/
theorem back {index : Nat} {before rest : List Char} {x : Char}
    (h : IsIn ⟨index, x :: before, rest⟩ t) : IsIn ⟨index - 1, before, x :: rest⟩ t where
  around := by simpa using h.around
  counted := Nat.eq_sub_of_add_eq h.counted

theorem next? (h : c.IsIn t) (hnext : c.next? = some d) : d.IsIn t ∧ d.index = c.index + 1 := by
  obtain ⟨index, before, rest⟩ := c
  cases rest with
  | nil => cases hnext
  | cons x rest =>
    cases hnext
    exact ⟨h.forth, rfl⟩

theorem back? {n : Nat} (h : c.IsIn t) (hback : c.back? n = some d) : d.IsIn t := by
  induction n generalizing c with
  | zero =>
    cases hback
    exact h
  | succ n ih =>
    obtain ⟨index, before, rest⟩ := c
    cases before with
    | nil => cases hback
    | cons x before => exact ih h.back hback

theorem along? {s : Text} (h : c.IsIn t) (halong : c.along? s = some d) :
    d.IsIn t ∧ c.index ≤ d.index := by
  induction s generalizing c with
  | nil =>
    cases halong
    exact ⟨h, Nat.le_refl _⟩
  | cons x s ih =>
    obtain ⟨index, before, rest⟩ := c
    cases rest with
    | nil => cases halong
    | cons y rest =>
      by_cases hxy : x = y
      · simp only [Cursor.along?, hxy, if_true] at halong
        obtain ⟨hin, hle⟩ := ih h.forth halong
        exact ⟨hin, Nat.le_of_succ_le hle⟩
      · simp only [Cursor.along?, hxy, if_false] at halong
        cases halong

/-- The text between two positions. -/
theorem upTo_eq (h : c.IsIn t) (d : Cursor) :
    c.upTo d = (t.drop c.index).take (d.index - c.index) := by
  rw [upTo, h.rest_eq]

end IsIn

end Cursor

/-! ## What is done last -/

/-- The last of what is left to do records where the match ends, as `closes` tells. -/
def Closing {α : Type} (closes : α → Bool) (todo : List α) : Prop :=
  ∃ front last, todo = front ++ [last] ∧ closes last = true

namespace Closing

variable {α : Type} {closes : α → Bool} {todo rest : List α} {a : α}

theorem append (h : Closing closes todo) (more : List α) : Closing closes (more ++ todo) := by
  obtain ⟨front, last, rfl, hlast⟩ := h
  exact ⟨more ++ front, last, by rw [List.append_assoc], hlast⟩

theorem not_nil : ¬Closing closes [] := by
  rintro ⟨front, last, htodo, -⟩
  cases front <;> cases htodo

theorem singleton_iff : Closing closes [a] ↔ closes a = true := by
  refine ⟨?_, fun h => ⟨[], a, rfl, h⟩⟩
  rintro ⟨front, last, htodo, hlast⟩
  cases front with
  | nil =>
    cases htodo
    exact hlast
  | cons _ front => cases front <;> cases htodo

/-- What stands behind the first piece closes, unless nothing stands there. -/
theorem of_cons (h : Closing closes (a :: rest)) (hrest : rest ≠ []) : Closing closes rest := by
  obtain ⟨front, last, htodo, hlast⟩ := h
  cases front with
  | nil =>
    cases htodo
    exact absurd rfl hrest
  | cons _ front => exact ⟨front, last, (List.cons.inj htodo).2, hlast⟩

/-- Behind a piece that does not close something stands, and closes. -/
theorem of_not_closes (h : Closing closes (a :: rest)) (ha : closes a = false) :
    Closing closes rest := by
  refine h.of_cons fun hrest => ?_
  rw [hrest, singleton_iff, ha] at h
  cases h

end Closing

/-! ## Matching in one pass -/

namespace Node

/-- The work ends in recording where the match ends. -/
def closes : Node → Bool
  | mark slot => slot == 1
  | seq _ second => second.closes
  | _ => false

/-- What is left one step later ends in what stood behind. -/
theorem exists_append_of_follows {node : Node} {rest todo : List Node} (h : todo ∈ follows node rest) :
    ∃ front, todo = front ++ rest := by
  cases node with
  | nothing | eat _ | look _ | mark _ => exact ⟨[], List.mem_singleton.mp h⟩
  | seq a b => exact ⟨[a, b], List.mem_singleton.mp h⟩
  | fork _ a b =>
    rcases List.mem_pair.mp h with rfl | rfl
    · exact ⟨[a], rfl⟩
    · exact ⟨[b], rfl⟩
  | copies n body =>
    cases n with
    | zero => exact ⟨[], List.mem_singleton.mp h⟩
    | succ n => exact ⟨[body, copies n body], List.mem_singleton.mp h⟩
  | upTo label n greedy body =>
    cases n with
    | zero => exact ⟨[], List.mem_singleton.mp h⟩
    | succ n =>
      rcases List.mem_pair.mp h with rfl | rfl
      · exact ⟨[body, upTo label n greedy body], rfl⟩
      · exact ⟨[], rfl⟩
  | loop label greedy body =>
    rcases List.mem_pair.mp h with rfl | rfl
    · exact ⟨[body, loop label greedy body], rfl⟩
    · exact ⟨[], rfl⟩

/-- Work that closes goes on to close, unless all that is left is to record the end. -/
theorem closing_follows {node : Node} {rest todo : List Node} (h : Closing closes (node :: rest))
    (htodo : todo ∈ follows node rest) : Closing closes todo ∨ node = mark 1 ∧ todo = [] := by
  by_cases hrest : rest = []
  · subst hrest
    have hnode := Closing.singleton_iff.mp h
    cases node with
    | mark slot =>
      cases List.mem_singleton.mp htodo
      exact Or.inr ⟨congrArg mark (eq_of_beq hnode), rfl⟩
    | seq a b =>
      cases List.mem_singleton.mp htodo
      have hb : b.closes = true := hnode
      exact Or.inl ((Closing.singleton_iff.mpr hb).append [a])
    | _ => cases hnode
  · obtain ⟨front, rfl⟩ := exists_append_of_follows htodo
    exact Or.inl ((h.of_cons hrest).append front)

end Node

open Node

namespace Marks

/-- The recorded positions are positions of the text, from one index up to another. -/
def Between (marks : Marks) (t : Text) (low high : Nat) : Prop :=
  ∀ m ∈ marks, m.2.IsIn t ∧ low ≤ m.2.index ∧ m.2.index ≤ high

theorem Between.mono {marks : Marks} {t : Text} {low high high' : Nat} (h : marks.Between t low high)
    (hhigh : high ≤ high') : marks.Between t low high' :=
  fun m hm => ⟨(h m hm).1, (h m hm).2.1, Nat.le_trans (h m hm).2.2 hhigh⟩

/-- The positions recorded by a search that began at the index.  They are positions of the text from there
on, and none lies behind the end of the match, if the work of the search closes. -/
structure Recorded (marks : Marks) (t : Text) (low : Nat) (root : Node) : Prop where
  from_low : ∀ m ∈ marks, m.2.IsIn t ∧ low ≤ m.2.index
  up_to_end : root.closes = true →
    ∃ last, marks.at? 1 = some last ∧ ∀ m ∈ marks, m.2.index ≤ last.index

theorem mem_of_at? {marks : Marks} {slot : Nat} {c : Cursor} (h : marks.at? slot = some c) :
    (slot, c) ∈ marks := by
  induction marks with
  | nil => cases h
  | cons m marks ih =>
    obtain ⟨slot', c'⟩ := m
    by_cases hslot : slot = slot'
    · subst hslot
      rw [at?, List.lookup_cons_self] at h
      cases h
      exact List.mem_cons_self
    · rw [at?, List.lookup_cons, beq_false_of_ne hslot] at h
      exact List.mem_cons_of_mem _ (ih h)

end Marks

section Search

variable {t : Text} {low : Nat} {root : Node} {here : Cursor}

/-- A thread has recorded positions up to where it stands.  What it has left to do closes, or it has
recorded the end of the match, where it stands. -/
structure Thread.Sound (thread : Thread) (t : Text) (low : Nat) (root : Node) (here : Cursor) :
    Prop where
  between : thread.marks.Between t low here.index
  closing : root.closes = true →
    Closing closes thread.todo ∨ thread.todo = [] ∧ thread.marks.at? 1 = some here

/-- The work of a search before it has begun. -/
theorem Thread.sound_root (t : Text) (low : Nat) (root : Node) (here : Cursor) :
    Thread.Sound ⟨[root], []⟩ t low root here where
  between := fun _ hm => absurd hm List.not_mem_nil
  closing := fun hroot => Or.inl (Closing.singleton_iff.mpr hroot)

theorem Thread.marks_unfold {node : Node} {rest : List Node} {marks : Marks} {thread : Thread}
    (h : thread ∈ unfold here node rest marks) :
    thread.marks = marks ∨ ∃ slot, node = .mark slot ∧ thread.marks = (slot, here) :: marks := by
  cases node with
  | eat c => cases h
  | mark slot =>
    cases List.mem_singleton.mp h
    exact Or.inr ⟨slot, rfl, rfl⟩
  | look condition =>
    simp only [unfold] at h
    split at h
    · cases List.mem_singleton.mp h
      exact Or.inl rfl
    · cases h
  | copies n body => cases n <;> simp_all [unfold]
  | upTo label n greedy body => cases n <;> cases greedy <;> simp only [unfold] at h <;> aesop
  | loop label greedy body => cases greedy <;> simp only [unfold] at h <;> aesop
  | nothing | seq _ _ | fork _ _ _ => simp only [unfold] at h; aesop

/-- The threads that a thread splits into are sound when it is. -/
theorem Thread.Sound.unfold {node : Node} {rest : List Node} {marks : Marks}
    (h : Thread.Sound ⟨node :: rest, marks⟩ t low root here) (hin : here.IsIn t)
    (hlow : low ≤ here.index) {thread : Thread}
    (hthread : thread ∈ Thread.unfold here node rest marks) :
    thread.Sound t low root here where
  between := by
    rcases Thread.marks_unfold hthread with hmarks | ⟨slot, -, hmarks⟩
    · rw [hmarks]
      exact h.between
    · rw [hmarks]
      exact List.forall_mem_cons.mpr ⟨⟨hin, hlow, Nat.le_refl _⟩, h.between⟩
  closing := fun hroot => by
    rcases h.closing hroot with hclosing | ⟨hnil, -⟩
    · rcases closing_follows hclosing (Thread.todo_unfold hthread) with htodo | ⟨rfl, htodo⟩
      · exact Or.inl htodo
      · cases List.mem_singleton.mp hthread
        exact Or.inr ⟨htodo, rfl⟩
    · cases hnil

/-- The threads that wait at a position have recorded positions up to there, and have to close; a thread
that has matched there has recorded the end. -/
structure Front.Sound (front : Front) (t : Text) (low : Nat) (root : Node) (here : Cursor) : Prop where
  waiting : ∀ w ∈ front.waiting, w.2.marks.Between t low here.index ∧
    (root.closes = true → Closing closes w.2.todo)
  matched : ∀ marks, front.matched = some marks → marks.Recorded t low root

theorem Thread.Sound.recorded {marks : Marks} (h : Thread.Sound ⟨[], marks⟩ t low root here) :
    marks.Recorded t low root where
  from_low := fun m hm => ⟨(h.between m hm).1, (h.between m hm).2.1⟩
  up_to_end := fun hroot => by
    rcases h.closing hroot with hclosing | ⟨-, hend⟩
    · exact absurd hclosing Closing.not_nil
    · exact ⟨here, hend, fun m hm => (h.between m hm).2.2⟩

/-- A thread that waits for a character has more to do. -/
theorem Thread.Sound.waits {c : Class} {rest : List Node} {marks : Marks}
    (h : Thread.Sound ⟨.eat c :: rest, marks⟩ t low root here) :
    marks.Between t low here.index ∧ (root.closes = true → Closing closes rest) := by
  refine ⟨h.between, fun hroot => ?_⟩
  rcases h.closing hroot with hclosing | ⟨hnil, -⟩
  · exact hclosing.of_not_closes rfl
  · cases hnil

/-- Running sound threads up to the next character leaves a sound front. -/
theorem Front.sound_gather (hin : here.IsIn t) (hlow : low ≤ here.index) :
    ∀ (fuel : Nat) (threads : List Thread) (seen : List (List Node)) (waiting : List (Class × Thread)),
      (∀ thread ∈ threads, thread.Sound t low root here) →
      (∀ w ∈ waiting, w.2.marks.Between t low here.index ∧
        (root.closes = true → Closing closes w.2.todo)) →
      (gather here fuel threads seen waiting).Sound t low root here := by
  intro fuel
  induction fuel with
  | zero =>
    intro threads seen waiting _ hwaiting
    rw [gather]
    exact ⟨fun w hw => hwaiting w (List.mem_reverse.mp hw), fun marks hmarks => by cases hmarks⟩
  | succ fuel ih =>
    intro threads seen waiting hthreads hwaiting
    cases threads with
    | nil =>
      rw [gather]
      · exact ⟨fun w hw => hwaiting w (List.mem_reverse.mp hw), fun marks hmarks => by cases hmarks⟩
      · exact Nat.succ_ne_zero fuel
    | cons thread threads =>
      obtain ⟨hthread, hothers⟩ := List.forall_mem_cons.mp hthreads
      obtain ⟨todo, marks⟩ := thread
      by_cases hseen : todo ∈ seen
      · rw [gather_of_mem fuel hseen]
        exact ih _ _ _ hothers hwaiting
      cases todo with
      | nil =>
        rw [gather_nil fuel hseen]
        refine ⟨fun w hw => hwaiting w (List.mem_reverse.mp hw), fun marks' hmarks => ?_⟩
        cases hmarks
        exact hthread.recorded
      | cons node rest =>
        by_cases hwaits : node.waits = true
        · cases node with
          | eat c =>
            rw [gather_eat fuel hseen]
            exact ih _ _ _ hothers (List.forall_mem_cons.mpr ⟨hthread.waits, hwaiting⟩)
          | _ => cases hwaits
        · rw [gather_step fuel (Bool.not_eq_true _ ▸ hwaits) hseen]
          refine ih _ _ _ (fun thread hmem => ?_) hwaiting
          rcases List.mem_append.mp hmem with hnew | hold
          · exact hthread.unfold hin hlow hnew
          · exact hothers thread hold

/-- The threads that a sound front hands to the next position. -/
theorem Front.Sound.taking {front : Front} {index : Nat} {before rest : List Char} {c : Char}
    (h : front.Sound t low root ⟨index, before, c :: rest⟩) {thread : Thread}
    (hthread : thread ∈ front.taking c) :
    thread.Sound t low root ⟨index + 1, c :: before, rest⟩ := by
  obtain ⟨⟨wanted, thread'⟩, hwaiting, htakes⟩ := List.mem_filterMap.mp hthread
  dsimp only at htakes
  split at htakes
  · cases htakes
    obtain ⟨hbetween, hclosing⟩ := h.waiting _ hwaiting
    exact ⟨hbetween.mono (Nat.le_succ index), fun hroot => Or.inl (hclosing hroot)⟩
  · cases htakes

theorem Search.recorded_after {search : Search} {front : Front} (hfront : front.Sound t low root here)
    (hbest : ∀ marks, search.best = some marks → marks.Recorded t low root) :
    ∀ marks, (search.after front).best = some marks → marks.Recorded t low root := by
  intro marks hmarks
  cases hmatched : front.matched with
  | some marks' =>
    simp only [after, hmatched] at hmarks
    cases hmarks
    exact hfront.matched marks hmatched
  | none =>
    simp only [after, hmatched] at hmarks
    exact hbest marks hmarks

/-- What a search has recorded when it comes to its end. -/
theorem Search.recorded_follow :
    ∀ (rest : Text) (search : Search) (index : Nat) (before : List Char) (threads : List Thread),
      (⟨index, before, rest⟩ : Cursor).IsIn t → low ≤ index → search.root = root →
      (∀ thread ∈ threads, thread.Sound t low root ⟨index, before, rest⟩) →
      (∀ marks, search.best = some marks → marks.Recorded t low root) →
      ∀ marks, search.follow index before threads rest = some marks → marks.Recorded t low root := by
  intro rest
  induction rest with
  | nil =>
    intro search index before threads hin hlow hroot hthreads hbest marks hmarks
    have hfront : (search.front ⟨index, before, []⟩ threads).Sound t low root ⟨index, before, []⟩ :=
      Front.sound_gather hin hlow _ _ _ _ hthreads (fun _ hw => absurd hw List.not_mem_nil)
    exact recorded_after hfront hbest marks hmarks
  | cons c rest ih =>
    intro search index before threads hin hlow hroot hthreads hbest marks hmarks
    have hfront : (search.front ⟨index, before, c :: rest⟩ threads).Sound t low root
        ⟨index, before, c :: rest⟩ :=
      Front.sound_gather hin hlow _ _ _ _ hthreads (fun _ hw => absurd hw List.not_mem_nil)
    rw [follow] at hmarks
    split at hmarks
    · exact recorded_after hfront hbest marks hmarks
    · refine ih (search.after (search.front ⟨index, before, c :: rest⟩ threads)) (index + 1)
        (c :: before) _ hin.forth (Nat.le_succ_of_le hlow) hroot (fun thread hthread => ?_)
        (recorded_after hfront hbest) marks hmarks
      rcases List.mem_append.mp hthread with htaking | hnew
      · exact hfront.taking htaking
      · split at hnew
        · cases List.mem_singleton.mp hnew
          exact hroot ▸ Thread.sound_root t low _ _
        · cases hnew

/-- Matching in one pass records positions of the text, and none before the beginning of the search.  If the
work closes, the end of the match is recorded, and nothing behind it. -/
theorem Search.recorded_run {start : Cursor} {anchored : Bool} {marks : Marks} (hin : start.IsIn t)
    (h : run root anchored start = some marks) : marks.Recorded t start.index root := by
  refine recorded_follow start.rest _ start.index start.before _ hin (Nat.le_refl _) rfl ?_ ?_ marks h
  · intro thread hthread
    cases List.mem_singleton.mp hthread
    exact Thread.sound_root t _ root _
  · intro marks hmarks
    cases hmarks

end Search

end BundleHardening
