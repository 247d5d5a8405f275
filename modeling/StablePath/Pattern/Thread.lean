import StablePath.Pattern.Term

/-!
Threads: partial matches that wait for the next character.

What a thread has still to match is a stack of frames. `Frontier.explore` follows a thread to all
the places where it needs a character, in order of preference. Two threads with the same stack at
the same place have the same future, so only the first of them is kept.
-/

namespace StablePath.Pattern

/-- Where groups were opened and closed, the latest first. -/
inductive Event
  | opened (group offset : Nat)
  | closed (group offset : Nat)
  deriving DecidableEq, Inhabited

abbrev Trail := List Event

def Trail.lastOpened (group : Nat) (trail : Trail) : Option Nat :=
  trail.findSome? fun
    | .opened g at' => if g = group then some at' else none
    | .closed _ _ => none

def Trail.lastClosed (group : Nat) (trail : Trail) : Option Nat :=
  trail.findSome? fun
    | .closed g at' => if g = group then some at' else none
    | .opened _ _ => none

/-- The text that a group matched last. -/
def Trail.span (group : Nat) (trail : Trail) : Option (Nat × Nat) := do
  let stop ← trail.lastClosed group
  let start ← trail.lastOpened group
  return (start, stop)

/-- What an iteration of an unbounded loop has done so far: nothing in the first iteration,
nothing in a later one, or taken a character. -/
inductive Progress
  | opening
  | idle
  | moved
  deriving DecidableEq, Inhabited

inductive Frame
  | run (t : Term)
  | close (group : Nat)
  | again (progress : Progress) (greedy : Bool) (body : Term)
  deriving DecidableEq, Inhabited

/-- Every iteration that a taken character lies in has moved. -/
def Frame.move : Frame → Frame
  | again _ greedy body => again .moved greedy body
  | frame => frame

structure Thread where
  todo : List Frame
  trail : Trail
  deriving DecidableEq, Inhabited

/-- A place in the text: what stands before it and after it, and its byte offset. -/
structure Spot where
  before : Option Char
  offset : Nat
  after : Option Char

/-! ### Moves without a character -/

/-- What a thread does before the next character: it waits for one (or is finished), gives up,
goes on in one way, or goes on in two ways of which the first is preferred. -/
inductive Move
  | wait
  | stop
  | go (next : Thread)
  | fork (preferred other : Thread)

/-- Two ways on, the first preferred where the loop is greedy. -/
def Move.loop (greedy : Bool) (more leave : Thread) : Move :=
  if greedy then fork more leave else fork leave more

/-- The next move of a thread. A loop is left by an iteration that has taken a character, after
which it may go round again, or by an empty first iteration. -/
def Thread.move (spot : Spot) (thread : Thread) : Move :=
  let go (todo : List Frame) : Thread := ⟨todo, thread.trail⟩
  match thread.todo with
  | [] => .wait
  | .run .empty :: rest => .go (go rest)
  | .run (.oneOf _) :: _ => .wait
  | .run (.look l) :: rest => if l.holds spot.before spot.after then .go (go rest) else .stop
  | .run (.group g t) :: rest =>
    .go ⟨.run t :: .close g :: rest, .opened g spot.offset :: thread.trail⟩
  | .run (.cat a b) :: rest => .go (go (.run a :: .run b :: rest))
  | .run (.alt a b) :: rest => .fork (go (.run a :: rest)) (go (.run b :: rest))
  | .run (.times 0 (some 0) _ _) :: rest => .go (go rest)
  | .run (.times 0 (some (n + 1)) greedy t) :: rest =>
    .loop greedy (go (.run t :: .run (.times 0 (some n) greedy t) :: rest)) (go rest)
  | .run (.times 0 none greedy t) :: rest =>
    .loop greedy (go (.run t :: .again .opening greedy t :: rest)) (go rest)
  | .run (.times 1 none greedy t) :: rest => .go (go (.run t :: .again .opening greedy t :: rest))
  | .run (.times (n + 1) hi greedy t) :: rest =>
    .go (go (.run t :: .run (.times n (hi.map (· - 1)) greedy t) :: rest))
  | .close g :: rest => .go ⟨rest, .closed g spot.offset :: thread.trail⟩
  | .again .opening _ _ :: rest => .go (go rest)
  | .again .idle _ _ :: _ => .stop
  | .again .moved greedy t :: rest =>
    .loop greedy (go (.run t :: .again .idle greedy t :: rest)) (go rest)

/-- What a thread does with the frame on top of its stack. -/
inductive Moves (spot : Spot) (rest : List Frame) (trail : Trail) : Frame → Move → Prop
  | empty : Moves spot rest trail (.run .empty) (.go ⟨rest, trail⟩)
  | oneOf (s : CharSet) : Moves spot rest trail (.run (.oneOf s)) .wait
  | holds (l : Look) (h : l.holds spot.before spot.after = true) :
      Moves spot rest trail (.run (.look l)) (.go ⟨rest, trail⟩)
  | fails (l : Look) (h : l.holds spot.before spot.after = false) :
      Moves spot rest trail (.run (.look l)) .stop
  | group (g : Nat) (t : Term) : Moves spot rest trail (.run (.group g t))
      (.go ⟨.run t :: .close g :: rest, .opened g spot.offset :: trail⟩)
  | cat (a b : Term) :
      Moves spot rest trail (.run (.cat a b)) (.go ⟨.run a :: .run b :: rest, trail⟩)
  | alt (a b : Term) : Moves spot rest trail (.run (.alt a b))
      (.fork ⟨.run a :: rest, trail⟩ ⟨.run b :: rest, trail⟩)
  | never (greedy : Bool) (t : Term) :
      Moves spot rest trail (.run (.times 0 (some 0) greedy t)) (.go ⟨rest, trail⟩)
  | upTo (n : Nat) (greedy : Bool) (t : Term) :
      Moves spot rest trail (.run (.times 0 (some (n + 1)) greedy t))
        (.loop greedy ⟨.run t :: .run (.times 0 (some n) greedy t) :: rest, trail⟩ ⟨rest, trail⟩)
  | any (greedy : Bool) (t : Term) : Moves spot rest trail (.run (.times 0 none greedy t))
      (.loop greedy ⟨.run t :: .again .opening greedy t :: rest, trail⟩ ⟨rest, trail⟩)
  | once (greedy : Bool) (t : Term) : Moves spot rest trail (.run (.times 1 none greedy t))
      (.go ⟨.run t :: .again .opening greedy t :: rest, trail⟩)
  | more (n : Nat) (hi : Option Nat) (greedy : Bool) (t : Term) (h : n ≠ 0 ∨ hi ≠ none) :
      Moves spot rest trail (.run (.times (n + 1) hi greedy t))
        (.go ⟨.run t :: .run (.times n (hi.map (· - 1)) greedy t) :: rest, trail⟩)
  | close (g : Nat) : Moves spot rest trail (.close g) (.go ⟨rest, .closed g spot.offset :: trail⟩)
  | opening (greedy : Bool) (t : Term) :
      Moves spot rest trail (.again .opening greedy t) (.go ⟨rest, trail⟩)
  | idle (greedy : Bool) (t : Term) : Moves spot rest trail (.again .idle greedy t) .stop
  | moved (greedy : Bool) (t : Term) : Moves spot rest trail (.again .moved greedy t)
      (.loop greedy ⟨.run t :: .again .idle greedy t :: rest, trail⟩ ⟨rest, trail⟩)

theorem Thread.moves (spot : Spot) (frame : Frame) (rest : List Frame) (trail : Trail) :
    Moves spot rest trail frame ((⟨frame :: rest, trail⟩ : Thread).move spot) := by
  cases frame with
  | close g => exact .close g
  | again progress greedy t =>
    cases progress with
    | opening => exact .opening greedy t
    | idle => exact .idle greedy t
    | moved => exact .moved greedy t
  | run t =>
    cases t with
    | empty => exact .empty
    | oneOf s => exact .oneOf s
    | look l =>
      simp only [Thread.move]
      split
      · exact .holds l ‹_›
      · exact .fails l (Bool.eq_false_iff.mpr ‹_›)
    | group g t => exact .group g t
    | cat a b => exact .cat a b
    | alt a b => exact .alt a b
    | times lo hi greedy t =>
      match lo, hi with
      | 0, none => exact .any greedy t
      | 0, some 0 => exact .never greedy t
      | 0, some (n + 1) => exact .upTo n greedy t
      | 1, none => exact .once greedy t
      | 1, some m => exact .more 0 (some m) greedy t (Or.inr (Option.some_ne_none m))
      | n + 2, hi => exact .more (n + 1) hi greedy t (Or.inl (Nat.succ_ne_zero n))

/-! ### How far a stack of frames is from a character -/

def Term.weight : Term → Nat
  | .empty | .oneOf _ | .look _ => 1
  | .group _ t => t.weight + 2
  | .cat a b | .alt a b => a.weight + b.weight + 1
  | .times lo hi _ t => (lo + hi.getD 0 + 2) * (t.weight + 2)

def Frame.weight : Frame → Nat
  | .run t => t.weight
  | .close _ => 1
  | .again .moved _ t => t.weight + 2
  | .again _ _ _ => 1

def framesWeight : List Frame → Nat
  | [] => 0
  | frame :: frames => frame.weight + framesWeight frames

def Thread.weight (thread : Thread) : Nat := framesWeight thread.todo

theorem Term.weight_times_succ (n : Nat) (hi : Option Nat) (greedy : Bool) (t : Term) :
    t.weight + (Term.times n (hi.map (· - 1)) greedy t).weight <
      (Term.times (n + 1) hi greedy t).weight := by
  have h : (hi.map (· - 1)).getD 0 ≤ hi.getD 0 := by cases hi <;> simp
  have hmul : (n + (hi.map (· - 1)).getD 0 + 2) * (t.weight + 2) ≤
      (n + hi.getD 0 + 2) * (t.weight + 2) := Nat.mul_le_mul_right _ (by omega)
  have hsplit : (n + 1 + hi.getD 0 + 2) * (t.weight + 2) =
      (n + hi.getD 0 + 2) * (t.weight + 2) + (t.weight + 2) := by
    rw [← Nat.succ_mul]
    congr 1
    omega
  simp only [Term.weight]
  omega

/-- Every way on of a move is lighter than a bound. -/
def Move.Below (bound : Nat) : Move → Prop
  | wait | stop => True
  | go next => next.weight < bound
  | fork preferred other => preferred.weight < bound ∧ other.weight < bound

theorem Move.below_loop {bound : Nat} {greedy : Bool} {more leave : Thread}
    (hmore : more.weight < bound) (hleave : leave.weight < bound) :
    (Move.loop greedy more leave).Below bound := by
  cases greedy
  · exact ⟨hleave, hmore⟩
  · exact ⟨hmore, hleave⟩

/-- A move without a character brings a thread nearer to one. -/
theorem Thread.below_move (spot : Spot) (thread : Thread) :
    (thread.move spot).Below thread.weight := by
  obtain ⟨_ | ⟨frame, rest⟩, trail⟩ := thread
  · trivial
  have hmoves := Thread.moves spot frame rest trail
  generalize (⟨frame :: rest, trail⟩ : Thread).move spot = next at hmoves ⊢
  cases hmoves with
  | oneOf | fails | idle => trivial
  | upTo n greedy t =>
    have hmul : (n + 1 + 2) * (t.weight + 2) = (n + 2) * (t.weight + 2) + (t.weight + 2) :=
      Nat.succ_mul _ _
    apply Move.below_loop
    all_goals
      simp only [Thread.weight, framesWeight, Frame.weight, Term.weight, Option.getD_some,
        Nat.zero_add, hmul]
      omega
  | any | moved =>
    apply Move.below_loop
    all_goals
      simp only [Thread.weight, framesWeight, Frame.weight, Term.weight, Option.getD_none]
      omega
  | more n hi greedy t =>
    have hless := t.weight_times_succ n hi greedy
    simp only [Move.Below, Thread.weight, framesWeight, Frame.weight]
    omega
  | empty | holds | group | cat | alt | never | once | close | opening =>
    simp only [Move.Below, Thread.weight, framesWeight, Frame.weight, Term.weight,
      Option.getD_none, Option.getD_some]
    omega

/-! ### Exploring -/

/-- What has been found at one place: the stacks met, and the threads that wait there or are
finished, each newest first. -/
structure Frontier where
  met : List (List Frame)
  waiting : List Thread

namespace Frontier

def empty : Frontier := ⟨[], []⟩

/-- Follows a thread to the places where it needs a character, the preferred way first. -/
def explore (spot : Spot) (thread : Thread) (f : Frontier) : Frontier :=
  if f.met.contains thread.todo then f
  else
    let f := { f with met := thread.todo :: f.met }
    match _h : thread.move spot with
    | .wait => { f with waiting := thread :: f.waiting }
    | .stop => f
    | .go next => explore spot next f
    | .fork preferred other => explore spot other (explore spot preferred f)
termination_by thread.weight
decreasing_by
  all_goals
    have below := thread.below_move spot
    simp only [_h, Move.Below] at below
  · exact below
  · exact below.1
  · exact below.2

/-- The threads found, best first. -/
def threads (f : Frontier) : List Thread := f.waiting.reverse

end Frontier

end StablePath.Pattern
