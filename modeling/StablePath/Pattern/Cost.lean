import StablePath.Pattern.Term
import StablePath.Unicode.Utf8

/-!
What a pattern costs.

A pattern is charged for the automaton, over bytes, that would match it: repetitions count as often
as they would be written out. The automaton can read forward or backward, and a pattern that costs
too much either way is refused before anything is written out.
-/

namespace StablePath.Pattern

/-- The most that a pattern may cost. -/
def costLimit : Nat := 10 * 1024 * 1024

/-- What a state of the automaton costs, and what each way out of it adds. -/
def stateCost : Nat := 32
def branchCost : Nat := 4
def rangeCost : Nat := 8

/-- The cost of a class that is no single character: in ASCII one state with all ranges and one
where they meet, else the automaton for its encoded sequences. -/
def classCost (backward : Bool) (s : CharSet) : Nat :=
  if s.within 0x7F then 2 * stateCost + rangeCost * s.ranges.length
  else if backward then
    let (prefixes, sequences) := Unicode.Utf8.backwardSize s
    2 * stateCost + branchCost * sequences + stateCost * prefixes
  else
    let (nodes, branches) := Unicode.Utf8.forwardSize s
    stateCost + stateCost * nodes + rangeCost * branches

/-- The number of bytes of the code point that is alone in a set. -/
def singleWidth? (s : CharSet) : Option Nat :=
  match s.ranges with
  | [(n, m)] => if n = m then some (Char.ofNat n).utf8Size else none
  | _ => none

namespace Term

def canBeEmpty : Term → Bool
  | empty | look _ => true
  | oneOf _ => false
  | group _ t => t.canBeEmpty
  | cat a b => a.canBeEmpty && b.canBeEmpty
  | alt a b => a.canBeEmpty || b.canBeEmpty
  | times lo _ _ t => lo == 0 || t.canBeEmpty

/-- The cost of a term. A choice directly on the right of a choice is part of it. -/
def cost (backward : Bool) : (inChoice : Bool) → Term → Nat
  | inChoice, alt a b =>
    (if inChoice then 0 else 2 * stateCost) + branchCost + cost backward false a +
      cost backward true b
  | inChoice, t => (if inChoice then branchCost else 0) + match t with
    | empty | look _ => stateCost
    | oneOf s =>
      match singleWidth? s with
      | some bytes => stateCost * bytes
      | none => classCost backward s
    | group _ t => (if backward then 0 else 2 * stateCost) + cost backward false t
    | cat a b => cost backward false a + cost backward false b
    | alt _ _ => 0
    | times lo hi _ t =>
      let once := cost backward false t
      match hi with
      | some hi =>
        if lo = hi then lo * once
        else lo * once + (hi - lo) * (once + stateCost + rangeCost) + stateCost
      | none =>
        if lo = 0 ∧ t.canBeEmpty then once + 3 * stateCost + rangeCost
        else max lo 1 * once + stateCost + rangeCost

/-- Whether a term can be afforded in both directions. -/
def affordable (t : Term) : Bool :=
  (group 0 t).cost false false ≤ costLimit && (group 0 t).cost true false ≤ costLimit

end Term

end StablePath.Pattern
