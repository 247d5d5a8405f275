/-!
TOML values.

A table remembers how it came about, since that decides what may still be added to it.
-/

namespace StablePath.Toml

inductive Origin
  /-- Written in braces; it is complete. -/
  | inline
  /-- Opened by a header of its own; so is the whole document. -/
  | header
  /-- Passed through by a header. -/
  | path
  /-- Passed through by a dotted key. -/
  | dotted
  deriving DecidableEq, Repr

/-- A value. Numbers with a fraction and dates keep their text. -/
inductive Value
  | string (s : String)
  | integer (n : Int)
  | float (text : String)
  | boolean (b : Bool)
  | dateTime (text : String)
  | array (items : List Value)
  /-- An array of tables that headers in double brackets opened. -/
  | tables (elements : List (List (String × Value)))
  | table (origin : Origin) (entries : List (String × Value))

/-- The keys of a table and their values, in the order of the document. -/
abbrev Entries := List (String × Value)

namespace Entries

def get? (key : String) (entries : Entries) : Option Value := entries.lookup key

/-- Gives a key that is present another value. -/
def set (key : String) (value : Value) (entries : Entries) : Entries :=
  entries.map fun entry => if entry.1 == key then (key, value) else entry

def add? (key : String) (value : Value) (entries : Entries) : Option Entries :=
  if (entries.get? key).isSome then none else some (entries ++ [(key, value)])

/-- Changes the table at the end of a path. Tables on the path that are missing are made; an array
of tables stands for its last element. A dotted path passes through no table with a header. -/
def within? (dotted : Bool) (change : Origin → Entries → Option Entries) :
    List String → Origin → Entries → Option Entries
  | [], origin, entries => change origin entries
  | key :: path, _, entries =>
    match entries.get? key with
    | none => do
      let origin := if dotted then Origin.dotted else Origin.path
      return entries ++ [(key, .table origin (← within? dotted change path origin []))]
    | some (.table origin inner) => do
      guard (origin ≠ .inline ∧ ¬(dotted ∧ origin = .header))
      return entries.set key (.table origin (← within? dotted change path origin inner))
    | some (.tables elements) => do
      let last ← elements.getLast?
      let last ← within? dotted change path .header last
      return entries.set key (.tables (elements.dropLast ++ [last]))
    | some _ => none

/-- Gives a dotted key a value. Only dotted keys add to the table that a dotted key made, and they
add to no other. -/
def assign? (path : List String) (key : String) (value : Value) (origin : Origin)
    (entries : Entries) : Option Entries :=
  within? true (fun origin entries =>
    if (origin = .dotted) = (path ≠ []) then entries.add? key value else none) path origin entries

/-- Opens the table that a header names. It may be there already if headers passed through it. -/
def openTable? (path : List String) (key : String) (entries : Entries) : Option Entries :=
  within? false (fun _ entries =>
    match entries.get? key with
    | none => some (entries ++ [(key, .table .header [])])
    | some (.table .path inner) => some (entries.set key (.table .header inner))
    | some _ => none) path .header entries

/-- Appends a table to the array that a header in double brackets names. -/
def openElement? (path : List String) (key : String) (entries : Entries) : Option Entries :=
  within? false (fun _ entries =>
    match entries.get? key with
    | none => some (entries ++ [(key, .tables [[]])])
    | some (.tables elements) => some (entries.set key (.tables (elements ++ [[]])))
    | some _ => none) path .header entries

end Entries

end StablePath.Toml
