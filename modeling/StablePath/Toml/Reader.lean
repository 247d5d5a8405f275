import StablePath.Toml.Quoted
import StablePath.Toml.Scalar

/-!
Reading TOML documents.

A document is a sequence of statements, one to a line: headers, which open tables, and assignments
to the table opened last.
-/

namespace StablePath.Toml

/-- A dotted key: the path to a table and a key in it. -/
structure Key where
  path : List String
  last : String

inductive Statement
  | openTable (key : Key)
  | openElement (key : Key)
  | assign (key : Key) (value : Value)

/-! ### Between the values -/

/-- Drops a comment from the front of a text, if there is one. -/
def dropComment? : List Char → Option (List Char)
  | '#' :: rest =>
    let rest := rest.dropWhile isPlain
    if rest.isEmpty || (takeNewline? rest).isSome then some rest else none
  | text => some text

/-- Reads the end of a line, where only blanks and a comment may stand. -/
def readLineEnd? (text : List Char) : Option (List Char) := do
  let rest ← dropComment? (dropBlanks text)
  if rest.isEmpty then return [] else takeNewline? rest

/-- Drops blanks, comments and line ends from the front of a text; its length is fuel enough. -/
def skipLines? : Nat → List Char → Option (List Char)
  | 0, text => some text
  | fuel + 1, text => do
    let rest ← dropComment? (dropBlanks text)
    match takeNewline? rest with
    | some rest => skipLines? fuel rest
    | none => return rest

/-! ### Keys -/

def isBareKey (c : Char) : Bool := c.isAlphanum || c == '_' || c == '-'

def readSimpleKey? (text : List Char) : Option (String × List Char) :=
  match readOneLine? text with
  | some found => some found
  | none =>
    let word := text.takeWhile isBareKey
    if word.isEmpty then none else some (String.ofList word, text.drop word.length)

/-- Reads a dotted key, with blanks around its parts. -/
def readKey? : Nat → List Char → Option (Key × List Char)
  | 0, _ => none
  | fuel + 1, text => do
    let (first, rest) ← readSimpleKey? (dropBlanks text)
    match dropBlanks rest with
    | '.' :: rest =>
      let (key, rest) ← readKey? fuel rest
      return (⟨first :: key.path, key.last⟩, rest)
    | rest => return (⟨[], first⟩, rest)

/-! ### Values -/

/-- How deep arrays and tables may be nested in a value. -/
def depthLimit : Nat := 80

/-- Characters that end a value without quotes or brackets. -/
def isScalarEnd (c : Char) : Bool :=
  isBlank c || c == '\n' || c == '\r' || c == ',' || c == ']' || c == '}' || c == '#'

/-- Takes the text of a value without quotes or brackets. A blank may stand between a date and a
time. -/
def takeScalar (text : List Char) : List Char × List Char :=
  let word := text.takeWhile fun c => !isScalarEnd c
  match text.drop word.length with
  | ' ' :: c :: rest =>
    if isDate word && c.isDigit then
      let time := (c :: rest).takeWhile fun c => !isScalarEnd c
      (word ++ ' ' :: time, (c :: rest).drop time.length)
    else (word, ' ' :: c :: rest)
  | rest => (word, rest)

mutual

/-- Reads a value; the length of the text is fuel enough. -/
def readValue? (fuel depth : Nat) (text : List Char) : Option (Value × List Char) :=
  match fuel with
  | 0 => none
  | fuel + 1 =>
    match text with
    | '[' :: rest => do
      guard (depth < depthLimit)
      let (items, rest) ← readItems? fuel (depth + 1) rest
      return (.array items, rest)
    | '{' :: rest => do
      guard (depth < depthLimit)
      let (entries, rest) ← readEntries? fuel (depth + 1) [] rest
      return (.table .inline entries, rest)
    | text => do
      if text.head?.any fun c => c == '"' || c == '\'' then
        let (s, rest) ← readString? text
        return (.string s, rest)
      else
        let (word, rest) := takeScalar text
        return (← readScalar? word, rest)

/-- Reads the items of an array up to its closing bracket. -/
def readItems? (fuel depth : Nat) (text : List Char) : Option (List Value × List Char) :=
  match fuel with
  | 0 => none
  | fuel + 1 => do
    match ← skipLines? text.length text with
    | ']' :: rest => return ([], rest)
    | text =>
      let (value, rest) ← readValue? fuel depth text
      match ← skipLines? rest.length rest with
      | ',' :: rest =>
        let (values, rest) ← readItems? fuel depth rest
        return (value :: values, rest)
      | ']' :: rest => return ([value], rest)
      | _ => none

/-- Reads the entries of a table up to its closing brace, after those already read. -/
def readEntries? (fuel depth : Nat) (entries : Entries) (text : List Char) :
    Option (Entries × List Char) :=
  match fuel with
  | 0 => none
  | fuel + 1 => do
    match ← skipLines? text.length text with
    | '}' :: rest => return (entries, rest)
    | text =>
      let (key, rest) ← readKey? text.length text
      match rest with
      | '=' :: rest =>
        let (value, rest) ← readValue? fuel depth (dropBlanks rest)
        let entries ← Entries.assign? key.path key.last value .inline entries
        match ← skipLines? rest.length rest with
        | ',' :: rest => readEntries? fuel depth entries rest
        | '}' :: rest => return (entries, rest)
        | _ => none
      | _ => none

end

/-! ### Statements -/

/-- Reads a statement without the end of its line. -/
def readStatement? (text : List Char) : Option (Statement × List Char) :=
  match text with
  | '[' :: '[' :: rest => do
    match ← readKey? rest.length rest with
    | (key, ']' :: ']' :: rest) => return (.openElement key, rest)
    | _ => none
  | '[' :: rest => do
    match ← readKey? rest.length rest with
    | (key, ']' :: rest) => return (.openTable key, rest)
    | _ => none
  | text => do
    match ← readKey? text.length text with
    | (key, '=' :: rest) =>
      let (value, rest) ← readValue? rest.length 0 (dropBlanks rest)
      return (.assign key value, rest)
    | _ => none

/-- Reads the statements of a text; its length is fuel enough. -/
def readStatements? : Nat → List Char → Option (List Statement)
  | 0, text => do
    guard (← skipLines? text.length text).isEmpty
    return []
  | fuel + 1, text => do
    match ← skipLines? text.length text with
    | [] => return []
    | text =>
      let (statement, rest) ← readStatement? text
      return statement :: (← readStatements? fuel (← readLineEnd? rest))

/-! ### Documents -/

/-- A document so far, and the path to the table that is open. -/
structure Draft where
  entries : Entries := []
  current : List String := []

/-- Carries out a statement. -/
def Draft.perform? (draft : Draft) : Statement → Option Draft
  | .openTable key => do
    return ⟨← draft.entries.openTable? key.path key.last, key.path ++ [key.last]⟩
  | .openElement key => do
    return ⟨← draft.entries.openElement? key.path key.last, key.path ++ [key.last]⟩
  | .assign key value => do
    let entries ← draft.entries.within? false
      (Entries.assign? key.path key.last value) draft.current .header
    return { draft with entries }

/-- Drops the mark of the byte order from the front of a text. -/
def dropByteOrderMark : List Char → List Char
  | '\uFEFF' :: rest => rest
  | text => text

/-- The entries of the document that a text is. -/
def read? (text : List Char) : Option Entries := do
  let text := dropByteOrderMark text
  let statements ← readStatements? text.length text
  return (← statements.foldlM Draft.perform? {}).entries

end StablePath.Toml
