import StablePath.Pattern.Cost
import StablePath.Pattern.Match
import StablePath.Pattern.Reader

/-!
Patterns: what a rule looks for in a path.
-/

namespace StablePath

/-- A pattern that has been read: its text and what it says. -/
structure Pattern where
  text : String
  term : Pattern.Term
  reads : Pattern.Reader.read? text.toList = some term
  deriving DecidableEq

namespace Pattern

/-- Reads a pattern. It is refused if its text is malformed or if it costs too much. -/
def read? (text : String) : Option Pattern :=
  match reads : Reader.read? text.toList with
  | some term => if term.affordable then some ⟨text, term, reads⟩ else none
  | none => none

/-- The number of groups, group zero included. -/
def groupCount (p : Pattern) : Nat := p.term.lastGroup + 1

/-- The groups of all matches in a path, from left to right. -/
def matchesIn (p : Pattern) (path : List Char) : List Groups := p.term.allMatches path

end Pattern

end StablePath
