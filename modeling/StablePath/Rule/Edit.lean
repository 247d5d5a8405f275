import StablePath.Pattern.Match
import StablePath.Text.Basic
import StablePath.Text.Quoted

/-!
Edits: what a rule writes over a match.

A draft is a path under revision together with the groups of the match that is being edited. Its
cuts are by byte offset, and a cut that is not possible gives no draft.
-/

namespace StablePath

/-- The circumstances under which a path was seen: the kind of filesystem of the file, if known,
and the process that used the path. -/
structure Sighting where
  filesystem : Option String
  pid : UInt32
  deriving DecidableEq, Repr

inductive Edit
  /-- Writes a text over a group. -/
  | literal (group : Nat) (replacement : String)
  /-- Writes `self` over a group with the number of the process, `*` over another number. -/
  | pid (group : Nat)
  deriving DecidableEq, Repr

/-- The number that a text in decimal digits writes, with a sign or without, if it fits in 32
bits. -/
def readPid? (text : List Char) : Option Nat :=
  let digits := match text with
    | '+' :: rest => rest
    | _ => text
  if digits.isEmpty || !digits.all Char.isDigit then none
  else
    let n := Text.numeral 10 digits
    if n < UInt32.size then some n else none

structure Draft where
  path : List Char
  groups : Pattern.Groups
  sighting : Sighting

namespace Draft

/-- The text of a group in the match being edited. -/
def group (n : Nat) (draft : Draft) : Option (Nat × Nat) := (draft.groups[n]?).join

/-- Writes a text over the bytes between two offsets. -/
def replace? (start stop : Nat) (text : List Char) (draft : Draft) : Option Draft :=
  (Text.splice? start stop text draft.path).map fun path => { draft with path }

end Draft

namespace Edit

def group : Edit → Nat
  | literal group _ => group
  | pid group => group

/-- What stands for a process in a path that the process `self` used. -/
def pidText (self : UInt32) (n : Nat) : List Char :=
  if n = self.toNat then ['s', 'e', 'l', 'f'] else ['*']

/-- Edits the match of a draft. A match in which the group took no part stays, as does a number of
more than 32 bits. -/
def perform? (edit : Edit) (draft : Draft) : Option Draft :=
  match draft.group edit.group with
  | none => some draft
  | some (start, stop) =>
    match edit with
    | literal _ replacement => draft.replace? start stop replacement.toList
    | pid _ => do
      let text ← Text.slice? start stop draft.path
      match readPid? text with
      | some n => draft.replace? start stop (pidText draft.sighting.pid n)
      | none => return draft

def describe : Edit → String
  | literal group replacement =>
    "group " ++ toString group ++ " -> " ++ String.ofList (Text.quote replacement.toList)
  | pid group => "group " ++ toString group ++ " -> \"self\" | \"*\""

end Edit

end StablePath
