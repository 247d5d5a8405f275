import Mathlib.Order.Basic
import Mathlib.Tactic.Common
import StablePath.Pattern.Match

/-!
The search for a match as a walk through a tree.

A thread branches where its term leaves a choice, and of two ways on the first is preferred.
`first?` follows the ways one after the other and turns back where one fails. The search follows
all of them at once and drops a stack of frames that it has met at the same place before. Both end
with the same trail.
-/

namespace StablePath.Pattern

/-! ### One way after the other -/

/-- The trail of the first way, in the order of preference, on which a thread is finished. -/
def Thread.first? (before : Option Char) (offset : Nat) (text : List Char) (thread : Thread) :
    Option Trail :=
  match _hm : thread.move ⟨before, offset, text.head?⟩ with
  | .stop => none
  | .go next => next.first? before offset text
  | .fork preferred other =>
    preferred.first? before offset text <|> other.first? before offset text
  | .wait =>
    if thread.isFinished then some thread.trail
    else match text with
      | [] => none
      | c :: rest =>
        match thread.take? c with
        | none => none
        | some next => next.first? (some c) (offset + c.utf8Size) rest
termination_by (text.length, thread.weight)
decreasing_by
  all_goals
    have below := thread.below_move ⟨before, offset, text.head?⟩
    simp only [_hm, Move.Below] at below
  · exact Prod.Lex.right _ below
  · exact Prod.Lex.right _ below.1
  · exact Prod.Lex.right _ below.2
  · exact Prod.Lex.left _ _ (by simp)

variable {before : Option Char} {offset : Nat} {text : List Char} {spot : Spot}

lemma Thread.first?_of_stop {thread : Thread}
    (h : thread.move ⟨before, offset, text.head?⟩ = .stop) :
    thread.first? before offset text = none := by
  rw [Thread.first?]
  split <;> simp_all

lemma Thread.first?_of_go {thread next : Thread}
    (h : thread.move ⟨before, offset, text.head?⟩ = .go next) :
    thread.first? before offset text = next.first? before offset text := by
  rw [Thread.first?]
  split <;> simp_all

lemma Thread.first?_of_fork {thread preferred other : Thread}
    (h : thread.move ⟨before, offset, text.head?⟩ = .fork preferred other) :
    thread.first? before offset text =
      (preferred.first? before offset text <|> other.first? before offset text) := by
  rw [Thread.first?]
  split <;> simp_all

/-! ### Threads that wait -/

/-- A thread that does not move without a character: it is finished, or it needs one of a set. -/
def Thread.Waits (thread : Thread) : Prop :=
  thread.todo = [] ∨ ∃ s rest, thread.todo = .run (.oneOf s) :: rest

lemma Thread.move_eq_wait_iff {thread : Thread} : thread.move spot = .wait ↔ thread.Waits := by
  obtain ⟨_ | ⟨frame, rest⟩, trail⟩ := thread
  · exact iff_of_true rfl (Or.inl rfl)
  have hmoves := Thread.moves spot frame rest trail
  constructor
  · intro hwait
    rw [hwait] at hmoves
    generalize hnext : Move.wait = next at hmoves
    cases hmoves with
    | oneOf s => exact Or.inr ⟨s, rest, rfl⟩
    | upTo _ greedy | any greedy | moved greedy => cases greedy <;> cases hnext
    | _ => cases hnext
  · rintro (hnil | ⟨s, rest, hrun⟩)
    · cases hnil
    · obtain ⟨rfl, rfl⟩ := List.cons.inj hrun
      rfl

lemma Thread.first?_of_finished {trail : Trail} :
    (⟨[], trail⟩ : Thread).first? before offset text = some trail := by
  rw [Thread.first?]
  simp [Thread.move, Thread.isFinished]

lemma Thread.first?_of_waits {thread : Thread} (h : thread.Waits) {c : Char}
    {rest : List Char} (hfin : thread.isFinished = false) :
    thread.first? before offset (c :: rest) =
      (thread.take? c).bind (Thread.first? (some c) (offset + c.utf8Size) rest) := by
  have hwait : thread.move ⟨before, offset, some c⟩ = .wait := Thread.move_eq_wait_iff.mpr h
  rw [Thread.first?]
  cases htake : thread.take? c with
  | none => split <;> simp_all
  | some next => split <;> simp_all

lemma Thread.first?_of_waits_nil {thread : Thread} (h : thread.Waits)
    (hfin : thread.isFinished = false) : thread.first? before offset [] = none := by
  have hwait : thread.move ⟨before, offset, none⟩ = .wait := Thread.move_eq_wait_iff.mpr h
  rw [Thread.first?]
  split <;> simp_all

/-- A property of all threads at all places, by what a thread does there: it moves without a
character, it is finished, or it waits for a character that may come or not. -/
theorem Thread.walk {motive : Option Char → Nat → List Char → Thread → Prop}
    (stop : ∀ before offset text thread, thread.move ⟨before, offset, text.head?⟩ = .stop →
      motive before offset text thread)
    (go : ∀ before offset text thread next, thread.move ⟨before, offset, text.head?⟩ = .go next →
      motive before offset text next → motive before offset text thread)
    (fork : ∀ before offset text thread preferred other,
      thread.move ⟨before, offset, text.head?⟩ = .fork preferred other →
      motive before offset text preferred → motive before offset text other →
      motive before offset text thread)
    (finished : ∀ before offset text trail, motive before offset text ⟨[], trail⟩)
    (ended : ∀ before offset thread, thread.Waits → thread.isFinished = false →
      motive before offset [] thread)
    (refused : ∀ before offset c rest thread, thread.Waits → thread.isFinished = false →
      thread.take? c = none → motive before offset (c :: rest) thread)
    (taken : ∀ before offset c rest thread next, thread.Waits → thread.isFinished = false →
      thread.take? c = some next → motive (some c) (offset + c.utf8Size) rest next →
      motive before offset (c :: rest) thread)
    (before : Option Char) (offset : Nat) (text : List Char) (thread : Thread) :
    motive before offset text thread := by
  induction before, offset, text, thread using Thread.first?.induct with
  | case1 before offset text thread hmove => exact stop before offset text thread hmove
  | case2 before offset text thread next hmove ih => exact go before offset text thread next hmove ih
  | case3 before offset text thread preferred other hmove ih ih' =>
    exact fork before offset text thread preferred other hmove ih ih'
  | case4 before offset text thread hmove hfin =>
    obtain ⟨todo, trail⟩ := thread
    obtain rfl : todo = [] := List.isEmpty_iff.mp hfin
    exact finished before offset text trail
  | case5 before offset thread hfin hmove =>
    exact ended before offset thread (Thread.move_eq_wait_iff.mp hmove) (by simpa using hfin)
  | case6 before offset thread hfin c rest hmove htake =>
    exact refused before offset c rest thread (Thread.move_eq_wait_iff.mp hmove) (by simpa using hfin)
      htake
  | case7 before offset thread hfin c rest hmove next htake ih =>
    exact taken before offset c rest thread next (Thread.move_eq_wait_iff.mp hmove)
      (by simpa using hfin) htake ih

/-! ### What happened before does not matter -/

def Move.map (f : Thread → Thread) : Move → Move
  | wait => wait
  | stop => stop
  | go next => go (f next)
  | fork preferred other => fork (f preferred) (f other)

/-- The thread with a longer past. -/
def Thread.after (past : Trail) (thread : Thread) : Thread := ⟨thread.todo, thread.trail ++ past⟩

lemma Thread.move_after (past : Trail) (thread : Thread) :
    (thread.after past).move spot = (thread.move spot).map (Thread.after past) := by
  obtain ⟨_ | ⟨frame, rest⟩, trail⟩ := thread
  · rfl
  have hmoves := Thread.moves spot frame rest trail
  generalize hnext : (⟨frame :: rest, trail⟩ : Thread).move spot = next at hmoves ⊢
  cases hmoves with
  | holds l h | fails l h => simp [Thread.move, Thread.after, Move.map, h]
  | upTo _ greedy | any greedy | moved greedy => cases greedy <;> rfl
  | more n hi _ _ h =>
    cases n with
    | zero =>
      obtain ⟨m, rfl⟩ := Option.ne_none_iff_exists'.mp (h.resolve_left fun hne => hne rfl)
      rfl
    | succ n => rfl
  | _ => rfl

lemma Thread.take?_after (past : Trail) (thread : Thread) (c : Char) :
    (thread.after past).take? c = (thread.take? c).map (Thread.after past) := by
  obtain ⟨todo, trail⟩ := thread
  unfold Thread.take? Thread.after
  dsimp only
  split
  · split <;> rfl
  · rfl

/-- A longer past is only carried along. -/
lemma Thread.first?_after (past : Trail) (thread : Thread) :
    (thread.after past).first? before offset text =
      (thread.first? before offset text).map (· ++ past) := by
  induction before, offset, text, thread using Thread.walk with
  | stop before offset text thread h =>
    rw [Thread.first?_of_stop h, Thread.first?_of_stop (by rw [Thread.move_after, h]; rfl)]
    rfl
  | go before offset text thread next h ih =>
    rw [Thread.first?_of_go h, ← ih]
    exact Thread.first?_of_go (by rw [Thread.move_after, h]; rfl)
  | fork before offset text thread preferred other h ih ih' =>
    rw [Thread.first?_of_fork h,
      Thread.first?_of_fork (show (thread.after past).move _ =
        .fork (preferred.after past) (other.after past) by rw [Thread.move_after, h]; rfl), ih, ih']
    cases preferred.first? before offset text <;> rfl
  | finished before offset text trail =>
    exact (Thread.first?_of_finished).trans (by rw [Thread.first?_of_finished]; rfl)
  | ended before offset thread hw hfin =>
    rw [Thread.first?_of_waits_nil hw hfin, Thread.first?_of_waits_nil (by exact hw) (by exact hfin)]
    rfl
  | refused before offset c rest thread hw hfin htake =>
    rw [Thread.first?_of_waits hw hfin, Thread.first?_of_waits (by exact hw) (by exact hfin),
      Thread.take?_after, htake]
    rfl
  | taken before offset c rest thread next hw hfin htake ih =>
    rw [Thread.first?_of_waits hw hfin, Thread.first?_of_waits (by exact hw) (by exact hfin),
      Thread.take?_after, htake]
    exact ih

/-- Whether a thread can be finished depends on its frames only. -/
lemma Thread.first?_eq_none_of_todo_eq {thread other : Thread} (h : other.todo = thread.todo)
    (hnone : thread.first? before offset text = none) :
    other.first? before offset text = none := by
  have key : ∀ t : Thread, t.first? before offset text =
      ((⟨t.todo, []⟩ : Thread).first? before offset text).map (· ++ t.trail) := fun t => by
    rw [← Thread.first?_after]; rfl
  rw [key, Option.map_eq_none_iff] at hnone ⊢
  rw [h]
  exact hnone

/-! ### All ways at once -/

namespace Frontier

/-- A frontier that has met the stack of one more thread. -/
def meets (f : Frontier) (thread : Thread) : Frontier := { f with met := thread.todo :: f.met }

/-- What following a thread makes of a frontier: nothing where its stack has been met; and else it
waits, is lost, or moves on. -/
inductive Explores (spot : Spot) : Thread → Frontier → Frontier → Prop
  | met (thread : Thread) (f : Frontier) (h : thread.todo ∈ f.met) : Explores spot thread f f
  | wait (thread : Thread) (f : Frontier) (h : thread.move spot = .wait) :
      Explores spot thread f { f.meets thread with waiting := thread :: f.waiting }
  | stop (thread : Thread) (f : Frontier) (h : thread.move spot = .stop) :
      Explores spot thread f (f.meets thread)
  | go {thread next : Thread} {f g : Frontier} (h : thread.move spot = .go next)
      (later : Explores spot next (f.meets thread) g) : Explores spot thread f g
  | fork {thread preferred other : Thread} {f g last : Frontier}
      (h : thread.move spot = .fork preferred other)
      (first : Explores spot preferred (f.meets thread) g) (later : Explores spot other g last) :
      Explores spot thread f last

lemma explores (spot : Spot) (thread : Thread) (f : Frontier) :
    Explores spot thread f (f.explore spot thread) := by
  fun_induction explore spot thread f with
  | case1 thread f h => exact .met thread f (by simpa using h)
  | case2 thread f => exact .wait thread f ‹_›
  | case3 thread f => exact .stop thread f ‹_›
  | case4 thread f => exact .go ‹_› ‹_›
  | case5 thread f h _ _ _ hmove first _ later => exact .fork hmove first later

/-- The trail that the best of the waiting threads is finished with. -/
def first? (before : Option Char) (offset : Nat) (text : List Char) (f : Frontier) :
    Option Trail :=
  f.threads.findSome? (Thread.first? before offset text)

/-- A stack of frames need not be followed again: a better thread is finished, or none with this
stack is. -/
def Settled (before : Option Char) (offset : Nat) (text : List Char) (f : Frontier)
    (frames : List Frame) : Prop :=
  (f.first? before offset text).isSome ∨
    ∀ thread : Thread, thread.todo = frames → thread.first? before offset text = none

/-- The stacks that have been met are settled, except those that are still being followed. -/
def Sound (before : Option Char) (offset : Nat) (text : List Char) (pending : List (List Frame))
    (f : Frontier) : Prop :=
  ∀ frames ∈ f.met, frames ∈ pending ∨ f.Settled before offset text frames

variable {f g : Frontier} {thread : Thread} {pending : List (List Frame)}

lemma Settled.of_orElse {frames : List Frame} {found : Option Trail}
    (hg : g.first? before offset text = (f.first? before offset text <|> found))
    (h : f.Settled before offset text frames) : g.Settled before offset text frames := by
  rcases h with h | h
  · left
    obtain ⟨trail, htrail⟩ := Option.isSome_iff_exists.mp h
    simp [hg, htrail]
  · exact Or.inr h

lemma settled_todo (hg : g.first? before offset text =
      (f.first? before offset text <|> thread.first? before offset text)) :
    g.Settled before offset text thread.todo := by
  cases h : thread.first? before offset text with
  | none => exact Or.inr fun other hother => Thread.first?_eq_none_of_todo_eq hother h
  | some trail =>
    left
    rw [hg, h]
    cases f.first? before offset text <;> rfl

lemma Sound.enter (h : f.Sound before offset text pending) :
    (f.meets thread).Sound before offset text (thread.todo :: pending) := by
  intro frames hf
  rcases List.mem_cons.mp hf with rfl | hf
  · exact Or.inl List.mem_cons_self
  · exact (h frames hf).imp (List.mem_cons_of_mem _) id

lemma Sound.leave (hg : g.first? before offset text =
      (f.first? before offset text <|> thread.first? before offset text))
    (h : g.Sound before offset text (thread.todo :: pending)) :
    g.Sound before offset text pending := by
  intro frames hf
  rcases h frames hf with h | h
  · rcases List.mem_cons.mp h with rfl | h
    · exact Or.inr (settled_todo hg)
    · exact Or.inl h
  · exact Or.inr h

lemma first?_wait : ({ f.meets thread with waiting := thread :: f.waiting } : Frontier).first?
      before offset text =
    (f.first? before offset text <|> thread.first? before offset text) := by
  simp only [first?, threads, List.reverse_cons, List.findSome?_append, List.findSome?_singleton]
  cases f.waiting.reverse.findSome? (Thread.first? before offset text) <;> rfl

/-- Following a thread adds what it finds. The stacks that are still being followed are heavier
than the thread, so its own is none of them: where it has been met, it is settled. -/
lemma Explores.sound (h : Explores ⟨before, offset, text.head?⟩ thread f g)
    (hpending : ∀ frames ∈ pending, thread.weight < framesWeight frames)
    (hf : f.Sound before offset text pending) :
    g.first? before offset text =
        (f.first? before offset text <|> thread.first? before offset text) ∧
      g.Sound before offset text pending := by
  have hself : ∀ {thread next : Thread} {pending : List (List Frame)},
      (∀ frames ∈ pending, thread.weight < framesWeight frames) → next.weight < thread.weight →
      ∀ frames ∈ thread.todo :: pending, next.weight < framesWeight frames := by
    intro thread next pending hpending hless frames h
    rcases List.mem_cons.mp h with rfl | h
    · exact hless
    · exact Nat.lt_trans hless (hpending frames h)
  induction h generalizing pending with
  | met thread f h =>
    refine ⟨?_, hf⟩
    rcases hf thread.todo h with h | h | h
    · exact absurd (hpending _ h) (Nat.lt_irrefl _)
    · obtain ⟨trail, htrail⟩ := Option.isSome_iff_exists.mp h
      simp [htrail]
    · rw [h thread rfl]
      cases f.first? before offset text <;> rfl
  | wait thread f h =>
    refine ⟨first?_wait, Sound.leave first?_wait fun frames hmet => ?_⟩
    exact (hf.enter frames hmet).imp id fun hs => Settled.of_orElse first?_wait hs
  | stop thread f h =>
    have hg : f.first? before offset text =
        (f.first? before offset text <|> thread.first? before offset text) := by
      rw [Thread.first?_of_stop h]
      cases f.first? before offset text <;> rfl
    exact ⟨hg, Sound.leave hg hf.enter⟩
  | @go thread next f g h _ ih =>
    have below := thread.below_move ⟨before, offset, text.head?⟩
    rw [h] at below
    obtain ⟨hfirst, hall⟩ := ih (hself hpending below) hf.enter
    replace hfirst : g.first? before offset text =
        (f.first? before offset text <|> next.first? before offset text) := hfirst
    rw [← Thread.first?_of_go h] at hfirst
    exact ⟨hfirst, Sound.leave hfirst hall⟩
  | @fork thread preferred other f g last h _ _ ih ih' =>
    have below := thread.below_move ⟨before, offset, text.head?⟩
    rw [h] at below
    obtain ⟨hfirst, hall⟩ := ih (hself hpending below.1) hf.enter
    obtain ⟨hfirst', hall'⟩ := ih' (hself hpending below.2) hall
    have hassoc : ∀ a b c : Option Trail, ((a <|> b) <|> c) = (a <|> (b <|> c)) := by
      intro a b c
      cases a <;> rfl
    replace hfirst : g.first? before offset text =
        (f.first? before offset text <|> preferred.first? before offset text) := hfirst
    rw [hfirst, hassoc, ← Thread.first?_of_fork h] at hfirst'
    exact ⟨hfirst', Sound.leave hfirst' hall'⟩

lemma Explores.waits (h : Explores spot thread f g) (hf : ∀ t ∈ f.waiting, t.Waits) :
    ∀ t ∈ g.waiting, t.Waits := by
  induction h with
  | met | stop => exact hf
  | wait thread f h => exact List.forall_mem_cons.mpr ⟨Thread.move_eq_wait_iff.mp h, hf⟩
  | go _ _ ih => exact ih hf
  | fork _ _ _ ih ih' => exact ih' (ih hf)

end Frontier

namespace Thread

lemma foldl_explore (threads : List Thread) (f : Frontier) (hf : f.Sound before offset text [])
    (hw : ∀ t ∈ f.waiting, t.Waits) :
    (threads.foldl (fun f t => f.explore ⟨before, offset, text.head?⟩ t) f).first? before offset
        text = (f.first? before offset text <|> threads.findSome? (first? before offset text)) ∧
      ∀ t ∈ (threads.foldl (fun f t => f.explore ⟨before, offset, text.head?⟩ t) f).waiting,
        t.Waits := by
  induction threads generalizing f with
  | nil =>
    refine ⟨?_, hw⟩
    cases h : f.first? before offset text <;> simp [h]
  | cons thread threads ih =>
    have hpending : ∀ frames ∈ ([] : List (List Frame)), thread.weight < framesWeight frames := by
      simp
    have hexplores := f.explores ⟨before, offset, text.head?⟩ thread
    obtain ⟨hfirst, hall⟩ := hexplores.sound hpending hf
    obtain ⟨hfirst', hw'⟩ := ih _ hall (hexplores.waits hw)
    refine ⟨?_, hw'⟩
    rw [List.foldl_cons, hfirst', hfirst]
    cases f.first? before offset text
    · rw [List.findSome?_cons]
      cases thread.first? before offset text <;> rfl
    · rfl

lemma exploreAll_spec (before : Option Char) (offset : Nat) (text : List Char)
    (threads : List Thread) :
    (exploreAll ⟨before, offset, text.head?⟩ threads).findSome? (first? before offset text) =
        threads.findSome? (first? before offset text) ∧
      ∀ t ∈ exploreAll ⟨before, offset, text.head?⟩ threads, t.Waits := by
  obtain ⟨hfirst, hw⟩ := foldl_explore threads Frontier.empty
    (show Frontier.empty.Sound before offset text [] by simp [Frontier.Sound, Frontier.empty])
    (by simp [Frontier.empty])
  refine ⟨hfirst.trans ?_, fun t ht => hw t (List.mem_reverse.mp ht)⟩
  cases threads.findSome? (first? before offset text) <;> rfl

/-- Of waiting threads, the finished ones and those that can take the next character count, up to
the first that is finished. -/
lemma findSome?_first?_cons {threads : List Thread} (hw : ∀ t ∈ threads, t.Waits) (c : Char)
    (rest : List Char) :
    threads.findSome? (first? before offset (c :: rest)) =
      (((threads.takeWhile fun t => !t.isFinished).filterMap (take? c)).findSome?
          (first? (some c) (offset + c.utf8Size) rest) <|>
        (threads.find? isFinished).map trail) := by
  induction threads with
  | nil => rfl
  | cons thread threads ih =>
    obtain ⟨hthread, hthreads⟩ := List.forall_mem_cons.mp hw
    rw [List.findSome?_cons]
    cases hfin : thread.isFinished with
    | true =>
      obtain ⟨todo, trail⟩ := thread
      obtain rfl : todo = [] := List.isEmpty_iff.mp hfin
      rw [first?_of_finished, List.find?_cons_of_pos hfin]
      simp [hfin]
    | false =>
      rw [first?_of_waits hthread hfin, ih hthreads]
      cases htake : thread.take? c with
      | none => simp [hfin, htake]
      | some next =>
        cases hnext : next.first? (some c) (offset + c.utf8Size) rest <;>
          simp [hfin, htake, hnext]

lemma findSome?_first?_nil {threads : List Thread} (hw : ∀ t ∈ threads, t.Waits) :
    threads.findSome? (first? before offset []) = (threads.find? isFinished).map trail := by
  induction threads with
  | nil => rfl
  | cons thread threads ih =>
    obtain ⟨hthread, hthreads⟩ := List.forall_mem_cons.mp hw
    rw [List.findSome?_cons]
    cases hfin : thread.isFinished with
    | true =>
      obtain ⟨todo, trail⟩ := thread
      obtain rfl : todo = [] := List.isEmpty_iff.mp hfin
      rw [first?_of_finished, List.find?_cons_of_pos hfin]
      rfl
    | false => rw [first?_of_waits_nil hthread hfin, ih hthreads]; simp [hfin]

/-- **The race is won by the preferred way.** -/
theorem race_eq (best : Option Trail) {threads : List Thread} (hw : ∀ t ∈ threads, t.Waits) :
    race best offset threads text =
      (threads.findSome? (first? before offset text) <|> best) := by
  induction text generalizing before offset best threads with
  | nil =>
    rw [findSome?_first?_nil hw]
    rfl
  | cons c rest ih =>
    rw [findSome?_first?_cons hw, race]
    dsimp only
    split
    next hmoved => rw [hmoved]; rfl
    next =>
      obtain ⟨hsame, hw'⟩ := exploreAll_spec (some c) (offset + c.utf8Size) rest
        ((threads.takeWhile fun t => !t.isFinished).filterMap (take? c))
      rw [ih _ hw', hsame]
      cases ((threads.takeWhile fun t => !t.isFinished).filterMap (take? c)).findSome?
        (first? (some c) (offset + c.utf8Size) rest) <;> rfl

end Thread

/-- **The match of a term at a place is the first in the order of preference.** -/
theorem Term.matchAt?_eq_first? (t : Term) :
    t.matchAt? before offset text =
      (⟨[.run (.group 0 t)], []⟩ : Thread).first? before offset text := by
  obtain ⟨hsame, hw⟩ := Thread.exploreAll_spec before offset text
    [⟨[.run (.group 0 t)], []⟩]
  rw [Term.matchAt?, Thread.race_eq none hw, hsame, List.findSome?_singleton]
  cases Thread.first? before offset text ⟨[.run (.group 0 t)], []⟩ <;> rfl

end StablePath.Pattern
