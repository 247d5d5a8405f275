import StablePath.Pattern.Escape

/-!
Classes in square brackets.

A class is a list of items: characters, ranges, classes by name and classes in brackets of their
own. The operators `&&`, `--` and `~~` combine lists of items, the leftmost first.
-/

namespace StablePath.Pattern

/-- A class and how deep its parts are nested. -/
structure ClassPart where
  set : CharSet
  depth : Nat

/-- The items of a class so far. -/
structure Items where
  set : CharSet := .empty
  count : Nat := 0
  depth : Nat := 0

def Items.add (part : ClassPart) (items : Items) : Items :=
  ⟨.union items.set part.set, items.count + 1, max items.depth part.depth⟩

/-- A list of several items is one level deeper than they are. -/
def Items.toPart (items : Items) : ClassPart :=
  ⟨items.set, if items.count ≤ 1 then items.depth else items.depth + 1⟩

inductive SetOperator
  | inter
  | diff
  | symmDiff

def SetOperator.apply (top : Nat) : SetOperator → CharSet → CharSet → CharSet
  | inter => .inter top
  | diff => .diff top
  | symmDiff => .symmDiff top

/-- What waits while a part of a class is read: the class around an inner one, or the left side of
an operator. -/
inductive Waiting
  | around (items : Items) (negated : Bool)
  | left (op : SetOperator) (part : ClassPart)

/-- Ends the right side of an operator, if there is one. Both sides are closed under case first. -/
def applyOperator (mode : Mode) (stack : List Waiting) (right : ClassPart) :
    Option (ClassPart × List Waiting) :=
  match stack with
  | .left op part :: stack => do
    let fold (s : CharSet) : CharSet := if !mode.caseless then s
      else if mode.unicode then Unicode.closeUnderCase s else Unicode.closeUnderAsciiCase s
    let set := op.apply mode.top (fold part.set) (fold right.set)
    return (⟨set, 1 + max part.depth right.depth⟩, stack)
  | stack => some (right, stack)

/-! ### Items -/

/-- The class of a name between colons. -/
def asciiClass? (name : List Char) : Option CharSet :=
  match String.ofList name with
  | "alnum" => some ⟨[(0x30, 0x39), (0x41, 0x5A), (0x61, 0x7A)]⟩
  | "alpha" => some ⟨[(0x41, 0x5A), (0x61, 0x7A)]⟩
  | "ascii" => some (.range 0 0x7F)
  | "blank" => some ⟨[(0x09, 0x09), (0x20, 0x20)]⟩
  | "cntrl" => some ⟨[(0x00, 0x1F), (0x7F, 0x7F)]⟩
  | "digit" => some asciiDigits
  | "graph" => some (.range 0x21 0x7E)
  | "lower" => some (.range 0x61 0x7A)
  | "print" => some (.range 0x20 0x7E)
  | "punct" => some ⟨[(0x21, 0x2F), (0x3A, 0x40), (0x5B, 0x60), (0x7B, 0x7E)]⟩
  | "space" => some asciiSpaces
  | "upper" => some (.range 0x41 0x5A)
  | "word" => some asciiWord
  | "xdigit" => some ⟨[(0x30, 0x39), (0x41, 0x46), (0x61, 0x66)]⟩
  | _ => none

/-- Reads a class name between colons, after an opening bracket. -/
def readAsciiClass? (text : List Char) : Option (CharSet × Bool × List Char) := do
  guard (text.head? = some ':')
  let text := text.tail
  let negated := text.head? = some '^'
  let text := if negated then text.tail else text
  let name := text.takeWhile (· != ':')
  match text.drop name.length with
  | ':' :: ']' :: rest => return (← asciiClass? name, negated, rest)
  | _ => none

/-- The code that a character stands for in a class. Without Unicode it must be in ASCII. -/
def Atom.code? (mode : Mode) : Atom → Option Nat
  | literal c _ => if mode.unicode || c.val < 128 then some c.toNat else none
  | _ => none

def Atom.inClass? (mode : Mode) : Atom → Option CharSet
  | oneOf s => some s
  | look _ => none
  | atom => (atom.code? mode).map fun n => .range n n

def readClassAtom? (mode : Mode) : List Char → Option (Atom × List Char)
  | '\\' :: rest => readEscape? mode rest
  | c :: rest => some (.literal c false, rest)
  | [] => none

/-- The character that counts after a hyphen. In a comment that is its first character. -/
def peekAfterHyphen (mode : Mode) (text : List Char) : Option Char :=
  if !mode.spaced then text.head?
  else match text.dropWhile isBlank with
    | '#' :: rest => (rest.dropWhile isBlank).head? <|> text.head?
    | rest => rest.head? <|> text.head?

/-- Reads one character, class or range. -/
def readClassItem? (mode : Mode) (text : List Char) : Option (ClassPart × List Char) := do
  let (first, rest) ← readClassAtom? mode text
  let single : Option ClassPart := (first.inClass? mode).map fun s => ⟨s, 0⟩
  match skip mode rest with
  | [] => none
  | '-' :: rest' =>
    let next := peekAfterHyphen mode rest'
    if next = some ']' ∨ next = some '-' then return (← single, '-' :: rest')
    else
      let (last, rest) ← readClassAtom? mode (skip mode rest')
      let lo ← first.code? mode
      let hi ← last.code? mode
      guard (lo ≤ hi)
      return (⟨.range lo hi, 0⟩, rest)
  | rest => return (← single, rest)

/-! ### Brackets -/

/-- Takes at most so many hyphens off the start of a class. -/
def leadingHyphens (mode : Mode) : Nat → Items → List Char → Items × List Char
  | n + 1, items, '-' :: rest =>
    leadingHyphens mode n (items.add ⟨.single '-', 0⟩) (skip mode rest)
  | _, items, text => (items, text)

/-- Reads the start of a class after its opening bracket: a circumflex, hyphens, or a closing
bracket that stands for itself. -/
def openClass? (mode : Mode) (text : List Char) : Option (Bool × Items × List Char) := do
  let text := skip mode text
  let negated := text.head? = some '^'
  let text := if negated then skip mode text.tail else text
  let (items, text) := leadingHyphens mode text.length {} text
  match text with
  | [] => none
  | c :: rest =>
    if c = ']' ∧ items.count = 0 then
      let rest := skip mode rest
      guard (!rest.isEmpty)
      return (negated, items.add ⟨.single ']', 0⟩, rest)
    else return (negated, items, text)

/-- Reads a class from inside its brackets to the closing one. Each round takes at least one
character off the text, so its length is fuel enough. -/
def readClassRest? (mode : Mode) :
    Nat → List Waiting → Items → List Char → Option (ClassPart × List Char)
  | 0, _, _, _ => none
  | fuel + 1, stack, items, text =>
    let operator (op : SetOperator) (rest : List Char) : Option (ClassPart × List Char) := do
      let (part, stack) ← applyOperator mode stack items.toPart
      readClassRest? mode fuel (.left op part :: stack) {} rest
    match skip mode text with
    | [] => none
    | '[' :: rest =>
      match readAsciiClass? rest with
      | some (s, negated, rest) => do
        let s ← finishClass mode negated s
        readClassRest? mode fuel stack (items.add ⟨s, 0⟩) rest
      | none => do
        let (negated, inner, rest) ← openClass? mode rest
        readClassRest? mode fuel (.around items negated :: stack) inner rest
    | ']' :: rest => do
      let (part, stack) ← applyOperator mode stack items.toPart
      match stack with
      | .around outer negated :: stack =>
        let s ← finishClass mode negated part.set
        let closed : ClassPart := ⟨s, 1 + part.depth⟩
        if stack.isEmpty then return (closed, rest)
        else readClassRest? mode fuel stack (outer.add closed) rest
      | _ => none
    | '&' :: '&' :: rest => operator .inter rest
    | '-' :: '-' :: rest => operator .diff rest
    | '~' :: '~' :: rest => operator .symmDiff rest
    | text => do
      let (part, rest) ← readClassItem? mode text
      readClassRest? mode fuel stack (items.add part) rest

/-- Reads a class after its opening bracket. -/
def readClass? (mode : Mode) (text : List Char) : Option (ClassPart × List Char) := do
  let (negated, items, rest) ← openClass? mode text
  readClassRest? mode text.length [.around {} negated] items rest

end StablePath.Pattern
