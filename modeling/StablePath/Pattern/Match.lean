import StablePath.Pattern.Thread

/-!
Matches of a term in a text.

At one place the preferred match is the one whose thread is first to be finished in the order of
preference, not in time: a finished thread ends only those less preferred than itself. The matches
in a text are found from left to right, each after the one before.
-/

namespace StablePath.Pattern

/-- Where each group of a pattern matched, from group zero on: byte offsets of its start and end. -/
abbrev Groups := List (Option (Nat × Nat))

namespace Thread

def isFinished (thread : Thread) : Bool := thread.todo.isEmpty

/-- The thread after a character, if it waits for one like it. -/
def take? (c : Char) (thread : Thread) : Option Thread :=
  match thread.todo with
  | .run (.oneOf s) :: rest =>
    if s.contains c.toNat then some ⟨rest.map Frame.move, thread.trail⟩ else none
  | _ => none

/-- The threads that go on from some threads at a place, best first. -/
def exploreAll (spot : Spot) (threads : List Thread) : List Thread :=
  (threads.foldl (fun f thread => f.explore spot thread) Frontier.empty).threads

/-- Runs threads through the rest of the text. The answer is the trail of the best one that is
ever finished, or `best` if none is. -/
def race (best : Option Trail) (offset : Nat) : List Thread → List Char → Option Trail
  | threads, [] => ((threads.find? isFinished).map Thread.trail) <|> best
  | threads, c :: rest =>
    let best := ((threads.find? isFinished).map Thread.trail) <|> best
    match (threads.takeWhile fun thread => !thread.isFinished).filterMap (take? c) with
    | [] => best
    | moved =>
      let offset := offset + c.utf8Size
      race best offset (exploreAll ⟨some c, offset, rest.head?⟩ moved) rest

end Thread

/-- The trail of the preferred match of a term that starts at a place. -/
def Term.matchAt? (t : Term) (before : Option Char) (offset : Nat) (text : List Char) :
    Option Trail :=
  Thread.race none offset
    (Thread.exploreAll ⟨before, offset, text.head?⟩ [⟨[.run (.group 0 t)], []⟩]) text

/-- The trails of the matches in the rest of a text. No match starts before the end of the last
one, and none is empty and right there. -/
def Term.matchesFrom (t : Term) (last : Option Nat) (before : Option Char) (offset : Nat)
    (text : List Char) : List Trail :=
  let found := do
    guard (last.all (· ≤ offset))
    let trail ← t.matchAt? before offset text
    let stop ← trail.lastClosed 0
    guard (stop ≠ offset ∨ last ≠ some offset)
    return (trail, stop)
  let last := (found.map Prod.snd) <|> last
  let more := match text with
    | [] => []
    | c :: rest => matchesFrom t last (some c) (offset + c.utf8Size) rest
  match found with
  | some (trail, _) => trail :: more
  | none => more

/-- The groups of all matches in a text, from left to right. -/
def Term.allMatches (t : Term) (text : List Char) : List Groups :=
  (t.matchesFrom none none 0 text).map fun trail =>
    (List.range (t.lastGroup + 1)).map fun group => trail.span group

end StablePath.Pattern
