import StablePath.CharSet
import StablePath.Text.Basic

/-!
Reading tables of code points.

A table is a text of words between blanks. Three kinds of words occur: a run (a label and how many
code points in a row carry it), a range of hexadecimal code points, and a list of fields between
equals signs.
-/

namespace StablePath.Unicode

open Text (numeral)

/-- The pieces of a text between separators, empty ones left out. -/
def pieces (isSeparator : Char → Bool) : List Char → List (List Char)
  | [] => []
  | c :: cs =>
    if isSeparator c then pieces isSeparator cs
    else match cs, pieces isSeparator cs with
      | d :: _, word :: more => if isSeparator d then [c] :: word :: more else (c :: word) :: more
      | _, more => [c] :: more

/-- Blanks and line ends stand between words. -/
def isBlank (c : Char) : Bool := c == ' ' || c == '\n'

def words (table : String) : List (List Char) := pieces isBlank table.toList

/-- The fields of one word. -/
def fields (word : List Char) : List (List Char) := pieces (· == '=') word

/-- A stretch of code points with one label. -/
structure Run where
  label : String
  first : Nat
  last : Nat

/-- The runs that words describe, laid end to end from a code point on. -/
def runsFrom (start : Nat) : List (List Char) → List Run
  | [] => []
  | word :: more =>
    let label := word.takeWhile Char.isAlpha
    let digits := word.drop label.length
    let count := if digits.isEmpty then 1 else numeral 10 digits
    ⟨String.ofList label, start, start + count - 1⟩ :: runsFrom (start + count) more

def readRuns (table : String) : List Run := runsFrom 0 (words table)

/-- The code points of the runs whose label is wanted. -/
def withLabel (wanted : String → Bool) (runs : List Run) : CharSet :=
  .ofRanges ((runs.filter fun r => wanted r.label).map fun r => (r.first, r.last))

/-- A range written as one code point or as two with a hyphen. -/
def readRange (word : List Char) : Nat × Nat :=
  match pieces (· == '-') word with
  | [lo, hi] => (numeral 16 lo, numeral 16 hi)
  | _ => (numeral 16 word, numeral 16 word)

end StablePath.Unicode
