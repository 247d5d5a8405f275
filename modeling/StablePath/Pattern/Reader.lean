import StablePath.Pattern.Class

/-!
Reading a pattern.

The reader keeps the sequence it is in, the branches before it, and the groups around it. It goes
through the text once; what it cannot read makes the whole pattern invalid.
-/

namespace StablePath.Pattern

/-- A part of a pattern and how deep its parts are nested. -/
structure Part where
  term : Term
  depth : Nat

/-- One place in a sequence: a part, or modes that were set there. -/
inductive Item
  | part (p : Part)
  | modes

def Item.term? : Item → Option Term
  | part p => some p.term
  | modes => none

def Item.depth : Item → Nat
  | part p => p.depth
  | modes => 0

/-- What is read between the brackets of a group, latest first: the items of the last branch and
the branches before it. -/
structure Body where
  items : List Item := []
  branches : List Part := []

namespace Body

def push (item : Item) (body : Body) : Body := { body with items := item :: body.items }

/-- The last branch. A sequence of several items is one level deeper than they are. -/
def lastBranch (body : Body) : Part :=
  { term := Term.concat (body.items.reverse.filterMap Item.term?)
    depth := match body.items with
      | [] => 0
      | [item] => item.depth
      | items => 1 + (items.map Item.depth).foldl max 0 }

/-- Starts a new branch. -/
def branch (body : Body) : Body := ⟨[], body.lastBranch :: body.branches⟩

def toPart (body : Body) : Part :=
  match body.branches.reverse with
  | [] => body.lastBranch
  | first :: more =>
    let others := more ++ [body.lastBranch]
    { term := Term.choice first.term (others.map Part.term)
      depth := 1 + ((first :: others).map Part.depth).foldl max 0 }

end Body

/-- A group that is not closed yet: what stands before it, the modes there, and its index if it
captures. -/
structure OpenGroup where
  before : Body
  mode : Mode
  index : Option Nat

structure Reader where
  body : Body := {}
  mode : Mode := {}
  groups : List OpenGroup := []
  /-- The index of the next group. -/
  next : Nat := 1
  names : List (List Char) := []

namespace Reader

def push (p : Part) (reader : Reader) : Reader :=
  { reader with body := reader.body.push (.part p) }

/-! ### Groups -/

def isNameStart (c : Char) : Bool := c == '_' || Unicode.alphabetic.contains c.toNat

def nameNumbers : CharSet := Unicode.inCategories ["Nd", "Nl", "No"]

def isNamePart (c : Char) : Bool :=
  isNameStart c || c == '.' || c == '[' || c == ']' || nameNumbers.contains c.toNat

/-- Reads the name of a group up to its closing angle bracket. -/
def readName? (text : List Char) : Option (List Char × List Char) :=
  let name := text.takeWhile (· != '>')
  match name, text.drop name.length with
  | first :: others, _ :: rest =>
    if isNameStart first && others.all isNamePart then some (name, rest) else none
  | _, _ => none

def openGroup (mode : Mode) (index : Option Nat) (reader : Reader) : Reader :=
  { reader with
    body := {}
    mode
    groups := ⟨reader.body, reader.mode, index⟩ :: reader.groups
    next := if index.isSome then reader.next + 1 else reader.next }

def openCapture (reader : Reader) : Reader := reader.openGroup reader.mode (some reader.next)

def openNamed? (reader : Reader) (text : List Char) : Option (Reader × List Char) := do
  let (name, rest) ← readName? text
  guard (!reader.names.contains name)
  return ({ reader.openCapture with names := name :: reader.names }, rest)

/-- Reads what follows an opening bracket. Groups that look ahead or behind are refused: their
signs are neither names nor modes. -/
def readOpen? (reader : Reader) (text : List Char) : Option (Reader × List Char) :=
  match skip reader.mode text with
  | '?' :: 'P' :: '<' :: rest => reader.openNamed? rest
  | '?' :: '<' :: rest => reader.openNamed? rest
  | '?' :: rest => do
    let (mode, seen, rest) ← reader.mode.read? [] rest
    match rest with
    | ')' :: rest =>
      guard (!seen.isEmpty)
      return ({ reader with mode, body := reader.body.push .modes }, rest)
    | _ :: rest => return (reader.openGroup mode none, rest)
    | [] => none
  | rest => some (reader.openCapture, rest)

/-- Closes a group, after which the modes are those before it again. -/
def closeGroup? (reader : Reader) : Option Reader :=
  match reader.groups with
  | [] => none
  | group :: groups =>
    let inner := reader.body.toPart
    let term := match group.index with
      | some n => .group n inner.term
      | none => inner.term
    some { reader with
      body := group.before.push (.part ⟨term, 1 + inner.depth⟩)
      mode := group.mode
      groups }

/-! ### Repetitions -/

/-- Repeats the last part, if there is one. -/
def repeatLast? (lo : Nat) (hi : Option Nat) (lazy : Bool) (reader : Reader) : Option Reader :=
  match reader.body.items with
  | .part p :: items =>
    let greedy := lazy == reader.mode.lazy
    let repeated : Part := ⟨p.term.repeated lo hi greedy, 1 + p.depth⟩
    some { reader with body := { reader.body with items := .part repeated :: items } }
  | _ => none

/-- Whether a question mark makes a repetition lazy, and the text after it. -/
def readLazy : List Char → Bool × List Char
  | '?' :: rest => (true, rest)
  | rest => (false, rest)

def readRepeat? (lo : Nat) (hi : Option Nat) (reader : Reader) (text : List Char) :
    Option (Reader × List Char) := do
  let (lazy, rest) := readLazy text
  return (← reader.repeatLast? lo hi lazy, rest)

/-- Takes at most so many digits off a text. -/
def takeDigits (mode : Mode) : Nat → List Char → List Char × List Char
  | n + 1, c :: rest =>
    if c.isDigit then
      let (digits, rest) := takeDigits mode n (skip mode rest)
      (c :: digits, rest)
    else ([], c :: rest)
  | _, text => ([], text)

/-- Drops blanks, and under a mode in which they do not count, comments between them. -/
def dropBlanksAround (mode : Mode) : Nat → List Char → List Char
  | n + 1, c :: rest =>
    if isBlank c then dropBlanksAround mode n (skip mode rest) else c :: rest
  | _, text => text

/-- Reads a count, with blanks around it: nothing if there is no digit. -/
def readCount? (mode : Mode) (text : List Char) : Option (Option Nat × List Char) :=
  let text := text.dropWhile isBlank
  let (digits, rest) := takeDigits mode text.length text
  let rest := dropBlanksAround mode rest.length rest
  let n := Text.numeral 10 digits
  if digits.isEmpty then some (none, rest)
  else if n < UInt32.size then some (some n, rest)
  else none

/-- Reads the bounds of a repetition after their opening brace. -/
def readBounds? (mode : Mode) (text : List Char) :
    Option (Nat × Option Nat × List Char) := do
  let (lo, rest) ← readCount? mode (skip mode text)
  let lo ← lo
  match rest with
  | '}' :: rest => return (lo, some lo, rest)
  | ',' :: rest =>
    match skip mode rest with
    | '}' :: rest => return (lo, none, rest)
    | rest =>
      match ← readCount? mode rest with
      | (some hi, '}' :: rest) =>
        guard (lo ≤ hi)
        return (lo, some hi, rest)
      | _ => none
  | _ => none

/-! ### The whole pattern -/

/-- A character that stands for itself, in all its cases where case does not count. -/
def literalTerm? (mode : Mode) (c : Char) (asByte : Bool) : Option Term := do
  guard (mode.unicode || !asByte || c.val < 128)
  let s := CharSet.single c
  return .oneOf (if !mode.caseless then s
    else if mode.unicode then Unicode.closeUnderCase s else Unicode.closeUnderAsciiCase s)

/-- Any character; without dot-all, any but the line ends. It is refused without Unicode. -/
def dotTerm? (mode : Mode) : Option Term :=
  let ends : CharSet := if mode.dotAll then .empty
    else if mode.crlf then ⟨[(0x0A, 0x0A), (0x0D, 0x0D)]⟩ else .range 0x0A 0x0A
  if mode.unicode then some (.oneOf (ends.complement CharSet.lastCode)) else none

def startTerm (mode : Mode) : Term :=
  .look (if mode.lines then .lineStart mode.crlf else .textStart)

def endTerm (mode : Mode) : Term :=
  .look (if mode.lines then .lineEnd mode.crlf else .textEnd)

def Atom.term? (mode : Mode) : Atom → Option Term
  | .literal c asByte => literalTerm? mode c asByte
  | .oneOf s => some (.oneOf s)
  | .look l => some (.look l)

def pushTerm (term : Term) (reader : Reader) : Reader := reader.push ⟨term, 0⟩

/-- Reads what begins with a character. -/
def step? (reader : Reader) (c : Char) (rest : List Char) : Option (Reader × List Char) :=
  let mode := reader.mode
  match c with
  | '(' => reader.readOpen? rest
  | ')' => reader.closeGroup?.map fun reader => (reader, rest)
  | '|' => some ({ reader with body := reader.body.branch }, rest)
  | '[' => do
    let (part, rest) ← readClass? mode rest
    return (reader.push ⟨.oneOf part.set, part.depth⟩, rest)
  | '*' => reader.readRepeat? 0 none rest
  | '+' => reader.readRepeat? 1 none rest
  | '?' => reader.readRepeat? 0 (some 1) rest
  | '{' => do
    let (lo, hi, rest) ← readBounds? mode rest
    reader.readRepeat? lo hi (skip mode rest)
  | '\\' => do
    let (atom, rest) ← readEscape? mode rest
    return (reader.pushTerm (← Atom.term? mode atom), rest)
  | '.' => do return (reader.pushTerm (← dotTerm? mode), rest)
  | '^' => some (reader.pushTerm (startTerm mode), rest)
  | '$' => some (reader.pushTerm (endTerm mode), rest)
  | c => do return (reader.pushTerm (← literalTerm? mode c false), rest)

/-- Reads a text to its end. Each round takes at least one character off it, so its length is fuel
enough. -/
def run? : Nat → Reader → List Char → Option Reader
  | fuel, reader, text =>
    match skip reader.mode text, fuel with
    | [], _ => some reader
    | _, 0 => none
    | c :: rest, fuel + 1 => do
      let (reader, rest) ← reader.step? c rest
      run? fuel reader rest

/-- How deep the parts of a pattern may be nested. -/
def depthLimit : Nat := 250

/-- The term that a text stands for, if the text is a pattern. -/
def read? (text : List Char) : Option Term := do
  let reader ← run? text.length {} text
  guard reader.groups.isEmpty
  let whole := reader.body.toPart
  guard (whole.depth ≤ depthLimit)
  return whole.term

end Reader

end StablePath.Pattern
