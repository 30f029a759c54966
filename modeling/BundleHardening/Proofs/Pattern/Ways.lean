import BundleHardening.Pattern.Threads

/-!
# The preferred way to match

What a pattern matches at a position, without threads: its alternatives and repetitions are tried
one after another in the order of preference, and each hands over to an *ending*, which answers
with the marks of the whole match or refuses.  The first ending that does not refuse decides.

`Node.tries_ofRegular` says that the work of a pattern is tried in the same way as the pattern, if
no unbounded repetition has a body that can match the empty text.  Such a repetition is spelled out
with an extra choice, and its body could be left and entered again at one position without end.
-/

set_option autoImplicit false

namespace BundleHardening

namespace Cursor

/-- The position so many characters on. -/
def ahead (c : Cursor) (n : Nat) : Cursor where
  index := c.index + n
  before := (c.rest.take n).reverse ++ c.before
  rest := c.rest.drop n

@[simp]
theorem rest_ahead (c : Cursor) (n : Nat) : (c.ahead n).rest = c.rest.drop n :=
  rfl

@[simp]
theorem index_ahead (c : Cursor) (n : Nat) : (c.ahead n).index = c.index + n :=
  rfl

@[simp]
theorem ahead_zero (c : Cursor) : c.ahead 0 = c := by
  simp [ahead]

@[simp]
theorem ahead_ahead (c : Cursor) (n m : Nat) : (c.ahead n).ahead m = c.ahead (n + m) := by
  simp [ahead, List.take_add, Nat.add_assoc]

/-- One character on, that character has been taken. -/
theorem rest_ahead_one {c : Cursor} {x : Char} {t : Text} (h : c.rest = x :: t) :
    (c.ahead 1).rest = t := by
  rw [rest_ahead, h]
  rfl

/-- One character on, that character stands in front. -/
theorem previous_ahead_one {c : Cursor} {x : Char} {t : Text} (h : c.rest = x :: t) :
    (c.ahead 1).previous = some x := by
  simp [previous, ahead, h]

/-- The text between two positions ahead of a third. -/
theorem upTo_ahead (c : Cursor) (n m : Nat) :
    (c.ahead n).upTo (c.ahead m) = (c.rest.drop n).take (m - n) := by
  simp [upTo, Nat.add_sub_add_left]

/-- The text from a position to one ahead of it. -/
theorem upTo_self_ahead (c : Cursor) (n : Nat) : c.upTo (c.ahead n) = c.rest.take n := by
  simp [upTo]

end Cursor

/-- What is left to do behind a part of a pattern: from a position and the marks recorded so far, the
marks of the whole match, or nothing when it comes to none. -/
abbrev Ending := Cursor → Marks → Option Marks

namespace Ending

/-- Nothing is left to do. -/
def final : Ending := fun _ marks => some marks

/-- Takes one character of the class. -/
def one (c : Class) (k : Ending) : Ending := fun here marks =>
  match here.rest with
  | [] => none
  | x :: _ => if c.contains x then k (here.ahead 1) marks else none

/-- Goes on where the condition holds. -/
def under (condition : Look) (k : Ending) : Ending := fun here marks =>
  if condition.holds here.previous here.following then k here marks else none

/-- Records the position under the slot. -/
def noting (slot : Nat) (k : Ending) : Ending := fun here marks =>
  k here ((slot, here) :: marks)

/-- The first of two, or else the second. -/
def either (a b : Ending) : Ending := fun here marks => (a here marks).or (b here marks)

/-- Two ways in the order of preference of a repetition: greedy ones go on rather than leave. -/
def prefer (greedy : Bool) (again leave : Ending) : Ending :=
  if greedy then either again leave else either leave again

/-- The body exactly so many times. -/
def copies (body : Ending → Ending) : Nat → Ending → Ending
  | 0, k => k
  | n + 1, k => body (copies body n k)

/-- The body at most so many times. -/
def upTo (greedy : Bool) (body : Ending → Ending) : Nat → Ending → Ending
  | 0, k => k
  | n + 1, k => prefer greedy (body (upTo greedy body n k)) k

/-- The body any number of times.  A body that takes a character each time runs out of text after as
many repetitions as characters are left. -/
def loop (greedy : Bool) (body : Ending → Ending) (k : Ending) : Ending := fun here marks =>
  upTo greedy body (here.rest.length + 1) k here marks

/-- The body at most so many times, or any number of times without a bound. -/
def more (greedy : Bool) (body : Ending → Ending) : Option Nat → Ending → Ending
  | none => loop greedy body
  | some n => upTo greedy body n

/-- What a part of a pattern does depends on its ending only at positions that it can reach: from here
on, and when it is not `free` to take nothing, behind at least one character more. -/
def Local (free : Bool) (part : Ending → Ending) : Prop :=
  ∀ (k k' : Ending) (here : Cursor),
    (∀ c : Cursor, c.rest.length ≤ here.rest.length →
      free = true ∨ c.rest.length < here.rest.length → k c = k' c) →
    part k here = part k' here

/-- Whether success depends on the position alone. -/
def Blind (k : Ending) : Prop :=
  ∀ (here : Cursor) (marks marks' : Marks), (k here marks).isSome = (k here marks').isSome

theorem prefer_congr {greedy : Bool} {a a' b b' : Ending} {here : Cursor}
    (ha : a here = a' here) (hb : b here = b' here) :
    prefer greedy a b here = prefer greedy a' b' here := by
  funext marks
  cases greedy <;> simp [prefer, either, ha, hb]

theorem Local.seq {f g : Bool} {a b : Ending → Ending} (ha : Local f a) (hb : Local g b) :
    Local (f && g) fun k => a (b k) := by
  intro k k' here h
  refine ha _ _ here fun c hc hfree => hb _ _ c fun c' hc' hfree' => h c' (by omega) ?_
  rcases hfree with rfl | hlt
  · rcases hfree' with rfl | hlt'
    · exact Or.inl rfl
    · exact Or.inr (by omega)
  · exact Or.inr (by omega)

theorem Local.prefer {f g : Bool} (greedy : Bool) {a b : Ending → Ending} (ha : Local f a)
    (hb : Local g b) : Local (f || g) fun k => prefer greedy (a k) (b k) := by
  intro k k' here h
  refine prefer_congr (ha k k' here fun c hc hfree => h c hc ?_)
    (hb k k' here fun c hc hfree => h c hc ?_)
  · exact hfree.imp_left fun hf => by simp [hf]
  · exact hfree.imp_left fun hg => by simp [hg]

theorem Local.copies {f : Bool} {body : Ending → Ending} (hb : Local f body) :
    ∀ n, Local (n == 0 || f) (copies body n)
  | 0 => fun _ _ here h => h here (Nat.le_refl _) (Or.inl rfl)
  | n + 1 => by
    have h := hb.seq (Local.copies hb n)
    have free : (f && (n == 0 || f)) = (n + 1 == 0 || f) := by cases f <;> simp
    exact free ▸ h

theorem Local.upTo {f : Bool} (greedy : Bool) {body : Ending → Ending} (hb : Local f body) :
    ∀ n, Local true (upTo greedy body n)
  | 0 => fun _ _ here h => h here (Nat.le_refl _) (Or.inl rfl)
  | n + 1 => by
    have leave : Local true id := fun _ _ here h => h here (Nat.le_refl _) (Or.inl rfl)
    have h := (hb.seq (Local.upTo greedy hb n)).prefer greedy leave
    simp only [Bool.or_true] at h
    exact h

theorem Local.loop {f : Bool} (greedy : Bool) {body : Ending → Ending} (hb : Local f body) :
    Local true (loop greedy body) :=
  fun k k' here h => Local.upTo greedy hb (here.rest.length + 1) k k' here h

/-- More rounds than characters make no difference. -/
theorem upTo_stable {greedy : Bool} {body : Ending → Ending} (hb : Local false body) (k : Ending) :
    ∀ (n m : Nat) (here : Cursor), here.rest.length < n → here.rest.length < m →
      upTo greedy body n k here = upTo greedy body m k here := by
  intro n
  induction n with
  | zero => intro m here hn; omega
  | succ n ih =>
    intro m here hn hm
    cases m with
    | zero => omega
    | succ m =>
      refine prefer_congr (hb _ _ here fun c _ hc => ?_) rfl
      have hlt : c.rest.length < here.rest.length := by simpa using hc
      exact ih m c (by omega) (by omega)

/-- One round of a loop: the body and the loop again, or leaving. -/
theorem loop_eq (greedy : Bool) {body : Ending → Ending} (hb : Local false body) (k : Ending) :
    loop greedy body k = prefer greedy (body (loop greedy body k)) k := by
  funext here
  refine prefer_congr (hb _ _ here fun c _ hc => ?_) rfl
  have hlt : c.rest.length < here.rest.length := by simpa using hc
  exact upTo_stable hb k here.rest.length (c.rest.length + 1) c hlt (Nat.lt_succ_self _)

theorem copies_comm (body : Ending → Ending) (n : Nat) (k : Ending) :
    copies body n (body k) = body (copies body n k) := by
  induction n with
  | zero => rfl
  | succ n ih => exact congrArg body ih

theorem Blind.prefer (greedy : Bool) {a b : Ending} (ha : a.Blind) (hb : b.Blind) :
    (prefer greedy a b).Blind := by
  intro here marks marks'
  cases greedy <;>
    simp [Ending.prefer, either, Option.isSome_or, ha here marks marks', hb here marks marks']

theorem Blind.copies {body : Ending → Ending} (hb : ∀ {k : Ending}, k.Blind → (body k).Blind)
    {k : Ending} (hk : k.Blind) : ∀ n, (copies body n k).Blind
  | 0 => hk
  | n + 1 => hb (Blind.copies hb hk n)

theorem Blind.upTo {greedy : Bool} {body : Ending → Ending}
    (hb : ∀ {k : Ending}, k.Blind → (body k).Blind) {k : Ending} (hk : k.Blind) :
    ∀ n, (upTo greedy body n k).Blind
  | 0 => hk
  | n + 1 => (hb (Blind.upTo hb hk n)).prefer greedy hk

theorem Blind.loop {greedy : Bool} {body : Ending → Ending}
    (hb : ∀ {k : Ending}, k.Blind → (body k).Blind) {k : Ending} (hk : k.Blind) :
    (loop greedy body k).Blind :=
  fun here => Blind.upTo hb hk (here.rest.length + 1) here

end Ending

open Ending

/-- The ways of a pattern to match, in the order of preference. -/
def Regular.tries : Regular → Ending → Ending
  | .empty => id
  | .set c => one c
  | .look condition => under condition
  | .group index body => fun k => noting (2 * index) (body.tries (noting (2 * index + 1) k))
  | .seq first second => fun k => first.tries (second.tries k)
  | .alt first second => fun k => either (first.tries k) (second.tries k)
  | .times least most greedy body => fun k =>
    copies body.tries least (more greedy body.tries (most.map (· - least)) k)

/-- Whether every unbounded repetition in the pattern takes a character in each round. -/
def Regular.advancing : Regular → Bool
  | .empty | .set _ | .look _ => true
  | .group _ body => body.advancing
  | .seq first second | .alt first second => first.advancing && second.advancing
  | .times _ most _ body => body.advancing && (most.isSome || !body.nullable)

namespace Node

/-- The ways of a piece of work to be done, in the order of preference. -/
def tries : Node → Ending → Ending
  | nothing => id
  | eat c => one c
  | look condition => under condition
  | mark slot => noting slot
  | seq first second => fun k => first.tries (second.tries k)
  | fork _ first second => fun k => either (first.tries k) (second.tries k)
  | copies count body => Ending.copies body.tries count
  | upTo _ count greedy body => Ending.upTo greedy body.tries count
  | loop _ greedy body => Ending.loop greedy body.tries

/-- Whether the work can be done without taking a character, conditions aside. -/
def nullable : Node → Bool
  | nothing | look _ | mark _ => true
  | eat _ => false
  | seq first second => first.nullable && second.nullable
  | fork _ first second => first.nullable || second.nullable
  | copies count body => count == 0 || body.nullable
  | upTo _ _ _ _ | loop _ _ _ => true

/-- Whether every loop takes a character in each round. -/
def advancing : Node → Bool
  | nothing | eat _ | look _ | mark _ => true
  | seq first second | fork _ first second => first.advancing && second.advancing
  | copies _ body | upTo _ _ _ body => body.advancing
  | loop _ _ body => body.advancing && !body.nullable

theorem local_tries (n : Node) : Local n.nullable n.tries := by
  induction n with
  | nothing => exact fun k k' here h => h here (Nat.le_refl _) (Or.inl rfl)
  | eat c =>
    intro k k' here h
    funext marks
    simp only [tries, one]
    cases hr : here.rest with
    | nil => rfl
    | cons x rest =>
      have hlt : (here.ahead 1).rest.length < here.rest.length := by simp [hr]
      rw [h (here.ahead 1) (Nat.le_of_lt hlt) (Or.inr hlt)]
  | look condition =>
    intro k k' here h
    funext marks
    simp only [tries, under, h here (Nat.le_refl _) (Or.inl rfl)]
  | mark slot =>
    intro k k' here h
    funext marks
    simp only [tries, noting, h here (Nat.le_refl _) (Or.inl rfl)]
  | seq a b iha ihb => exact iha.seq ihb
  | fork label a b iha ihb => exact iha.prefer true ihb
  | copies count body ih => exact ih.copies count
  | upTo label count greedy body ih => exact ih.upTo greedy count
  | loop label greedy body ih => exact ih.loop greedy

theorem blind_tries (n : Node) : ∀ {k : Ending}, k.Blind → (n.tries k).Blind := by
  induction n with
  | nothing => exact fun hk => hk
  | eat c =>
    intro k hk here marks marks'
    simp only [tries, one]
    split
    · rfl
    · split
      · exact hk _ _ _
      · rfl
  | look condition =>
    intro k hk here marks marks'
    simp only [tries, under]
    split
    · exact hk _ _ _
    · rfl
  | mark slot => exact fun hk here marks marks' => hk _ _ _
  | seq a b iha ihb => exact fun hk => iha (ihb hk)
  | fork label a b iha ihb => exact fun hk => (iha hk).prefer true (ihb hk)
  | copies count body ih => exact fun hk => Blind.copies ih hk count
  | upTo label count greedy body ih => exact fun hk => Blind.upTo ih hk count
  | loop label greedy body ih => exact fun hk => Blind.loop ih hk

/-- The spelled-out form of a repetition is tried like the repetition. -/
theorem tries_repeated (label least : Nat) (most : Option Nat) (greedy nullable : Bool)
    (body : Node) (h : most = none → body.nullable = false) (k : Ending) :
    (repeated label least most greedy nullable body).tries k =
      Ending.copies body.tries least (more greedy body.tries (most.map (· - least)) k) := by
  unfold repeated
  split
  · cases greedy <;> rfl
  · have round := loop_eq greedy (h rfl ▸ body.local_tries) k
    split
    · cases greedy <;> exact round.symm
    · rfl
  · rfl
  · exact copies_comm body.tries _ _
  · next m _ =>
    split
    · next heq =>
      obtain rfl : least = m := by simpa using heq
      simp only [Option.map_some, Nat.sub_self, more, Ending.upTo, tries]
    · rfl

theorem nullable_repeated (label least : Nat) (most : Option Nat) (greedy nullable : Bool)
    (body : Node) :
    (repeated label least most greedy nullable body).nullable = (least == 0 || body.nullable) := by
  unfold repeated
  split
  · cases greedy <;> simp [optional, Node.nullable]
  · split
    · cases greedy <;> simp [optional, Node.nullable]
    · rfl
  · simp [Node.nullable]
  · simp [Node.nullable]
  · split <;> simp [Node.nullable]

theorem nullable_ofRegular (r : Regular) : ∀ label, (ofRegular label r).1.nullable = r.nullable := by
  induction r with
  | empty | set _ | look _ => exact fun _ => rfl
  | group index body ih => intro label; simp [ofRegular, Node.nullable, Regular.nullable, ih]
  | seq a b iha ihb => intro label; simp [ofRegular, Node.nullable, Regular.nullable, iha, ihb]
  | alt a b iha ihb => intro label; simp [ofRegular, Node.nullable, Regular.nullable, iha, ihb]
  | times least most greedy body ih =>
    intro label
    simp [ofRegular, nullable_repeated, Regular.nullable, ih]

/-- The work of an advancing pattern is tried like the pattern. -/
theorem tries_ofRegular (r : Regular) :
    r.advancing = true → ∀ label, (ofRegular label r).1.tries = r.tries := by
  induction r with
  | empty | set _ | look _ => exact fun _ _ => rfl
  | group index body ih =>
    intro h label
    have hb := ih h label
    funext k
    simp only [ofRegular, tries, Regular.tries, hb]
  | seq a b iha ihb =>
    intro h label
    obtain ⟨ha, hb⟩ := Bool.and_eq_true_iff.mp h
    funext k
    simp only [ofRegular, tries, Regular.tries, iha ha, ihb hb]
  | alt a b iha ihb =>
    intro h label
    obtain ⟨ha, hb⟩ := Bool.and_eq_true_iff.mp h
    funext k
    simp only [ofRegular, tries, Regular.tries, iha ha, ihb hb]
  | times least most greedy body ih =>
    intro h label
    obtain ⟨hb, hn⟩ := Bool.and_eq_true_iff.mp h
    funext k
    simp only [ofRegular, Regular.tries]
    rw [tries_repeated, ih hb]
    rintro rfl
    simpa [nullable_ofRegular] using hn

theorem advancing_repeated (label least : Nat) (most : Option Nat) (greedy nullable : Bool)
    {body : Node} (hb : body.advancing = true) (h : most = none → body.nullable = false) :
    (repeated label least most greedy nullable body).advancing = true := by
  unfold repeated
  split
  · cases greedy <;> simp [optional, Node.advancing, hb]
  · split
    · cases greedy <;> simp [optional, Node.advancing, hb, h]
    · simp [Node.advancing, hb, h]
  · simp [Node.advancing, hb, h]
  · simp [Node.advancing, hb, h]
  · split <;> simp [Node.advancing, hb]

theorem advancing_ofRegular (r : Regular) :
    r.advancing = true → ∀ label, (ofRegular label r).1.advancing = true := by
  induction r with
  | empty | set _ | look _ => exact fun _ _ => rfl
  | group index body ih => intro h label; simp [ofRegular, Node.advancing, ih h]
  | seq a b iha ihb =>
    intro h label
    obtain ⟨ha, hb⟩ := Bool.and_eq_true_iff.mp h
    simp [ofRegular, Node.advancing, iha ha, ihb hb]
  | alt a b iha ihb =>
    intro h label
    obtain ⟨ha, hb⟩ := Bool.and_eq_true_iff.mp h
    simp [ofRegular, Node.advancing, iha ha, ihb hb]
  | times least most greedy body ih =>
    intro h label
    obtain ⟨hb, hn⟩ := Bool.and_eq_true_iff.mp h
    refine advancing_repeated _ _ _ _ _ (ih hb _) ?_
    rintro rfl
    simpa [nullable_ofRegular] using hn

end Node

end BundleHardening
