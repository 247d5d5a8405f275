import StablePath.CharSet

/-!
Pattern terms: what a pattern says, as a tree.
-/

namespace StablePath.Pattern

/-- The ways in which a place can lie with respect to words. The half edges look at one side
only. -/
inductive WordEdge
  | boundary
  | inside
  | start
  | finish
  | startHalf
  | finishHalf
  deriving DecidableEq, Inhabited

/-- A condition on a place in the text. -/
inductive Look
  | textStart
  | textEnd
  | lineStart (crlf : Bool)
  | lineEnd (crlf : Bool)
  | word (edge : WordEdge) (letters : CharSet)
  deriving DecidableEq, Inhabited

/-- Whether an edge is where a word character stands before (after) it or not. -/
def WordEdge.fits : WordEdge → Bool → Bool → Bool
  | .boundary, before, after => before != after
  | .inside, before, after => before == after
  | .start, before, after => !before && after
  | .finish, before, after => before && !after
  | .startHalf, before, _ => !before
  | .finishHalf, _, after => !after

/-- Whether a condition holds between two characters. Where carriage returns end lines too, no
line ends between a carriage return and a line feed. -/
def Look.holds (before after : Option Char) : Look → Bool
  | .textStart => before.isNone
  | .textEnd => after.isNone
  | .lineStart false => before.isNone || before == some '\n'
  | .lineStart true =>
    before.isNone || before == some '\n' || (before == some '\r' && after != some '\n')
  | .lineEnd false => after.isNone || after == some '\n'
  | .lineEnd true =>
    after.isNone || after == some '\r' || (after == some '\n' && before != some '\r')
  | .word edge letters =>
    edge.fits (before.any fun c => letters.contains c.toNat)
      (after.any fun c => letters.contains c.toNat)

inductive Term
  | empty
  | oneOf (s : CharSet)
  | look (l : Look)
  | group (index : Nat) (body : Term)
  | cat (a b : Term)
  | alt (a b : Term)
  | times (lo : Nat) (hi : Option Nat) (greedy : Bool) (body : Term)
  deriving DecidableEq, Inhabited

namespace Term

/-- No match of the term takes a character, and it is no empty class. -/
def takesNothing : Term → Bool
  | empty => true
  | oneOf _ => false
  | look _ => true
  | group _ t => t.takesNothing
  | cat a b => a.takesNothing && b.takesNothing
  | alt a b => a.takesNothing && b.takesNothing
  | times _ _ _ t => t.takesNothing

/-- A repetition. Once is enough for a term that takes no characters. -/
def repeated (lo : Nat) (hi : Option Nat) (greedy : Bool) (t : Term) : Term :=
  let lo' := if t.takesNothing then min lo 1 else lo
  let hi' := if t.takesNothing then some (min (hi.getD 1) 1) else hi
  if hi' = some 0 then empty
  else if lo' = 1 ∧ hi' = some 1 then t
  else times lo' hi' greedy t

/-- A sequence of terms. -/
def concat : List Term → Term
  | [] => empty
  | [t] => t
  | t :: ts => cat t (concat ts)

/-- A choice between terms, the first preferred. -/
def choice (t : Term) : List Term → Term
  | [] => t
  | u :: us => alt t (choice u us)

/-- The highest index of a group, zero if there is none. -/
def lastGroup : Term → Nat
  | empty | oneOf _ | look _ => 0
  | group n t => max n t.lastGroup
  | cat a b | alt a b => max a.lastGroup b.lastGroup
  | times _ _ _ t => t.lastGroup

end Term

end StablePath.Pattern
