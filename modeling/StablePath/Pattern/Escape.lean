import StablePath.Pattern.Mode
import StablePath.Pattern.Term
import StablePath.Unicode.CaseFold
import StablePath.Unicode.Lookup

/-!
What follows a backslash in a pattern.
-/

namespace StablePath.Pattern

/-- A part of a pattern without parts of its own. -/
inductive Atom
  | literal (c : Char) (asByte : Bool)
  | oneOf (s : CharSet)
  | look (l : Look)

def asciiDigits : CharSet := .range 0x30 0x39
def asciiSpaces : CharSet := ⟨[(0x09, 0x0D), (0x20, 0x20)]⟩
def asciiWord : CharSet := ⟨[(0x30, 0x39), (0x41, 0x5A), (0x5F, 0x5F), (0x61, 0x7A)]⟩

/-- A class as its mode lets it stand: without Unicode it must be within ASCII. -/
def admitted (mode : Mode) (s : CharSet) : Option CharSet :=
  if mode.unicode || s.within 0x7F then some s else none

/-- A class under a mode: first other cases are added, then it is complemented. -/
def finishClass (mode : Mode) (negated : Bool) (s : CharSet) : Option CharSet :=
  let folded := if !mode.caseless then s
    else if mode.unicode then Unicode.closeUnderCase s else Unicode.closeUnderAsciiCase s
  admitted mode (if negated then folded.complement mode.top else folded)

/-- The classes of one letter; a capital stands for the complement. -/
def letterClass? (mode : Mode) (c : Char) : Option CharSet :=
  let pick (wide narrow : CharSet) (negated : Bool) : Option CharSet :=
    let s := if mode.unicode then wide else narrow
    admitted mode (if negated then s.complement mode.top else s)
  match c with
  | 'd' => pick Unicode.decimalDigits asciiDigits false
  | 's' => pick Unicode.whiteSpace asciiSpaces false
  | 'w' => pick Unicode.wordCharacters asciiWord false
  | 'D' => pick Unicode.decimalDigits asciiDigits true
  | 'S' => pick Unicode.whiteSpace asciiSpaces true
  | 'W' => pick Unicode.wordCharacters asciiWord true
  | _ => none

def edge (mode : Mode) (e : WordEdge) : Atom :=
  .look (.word e (if mode.unicode then Unicode.wordCharacters else asciiWord))

/-! ### Code points by number -/

/-- The character with a code, unless it is a surrogate or beyond the last. -/
def charOfCode? (n : Nat) : Option Char :=
  if h : n.isValidChar then some (Char.ofNatAux n h) else none

/-- The number that hexadecimal digits write. -/
def hexValue? (digits : List Char) : Option Nat :=
  if digits.isEmpty then none
  else digits.foldlM (fun n c => (Text.digitValue? c).map (n * 16 + ·)) 0

/-- So many characters that count, and the text after them. -/
def takeCounting (mode : Mode) : Nat → List Char → Option (List Char × List Char)
  | 0, text => some ([], text)
  | n + 1, text =>
    match skip mode text with
    | [] => none
    | c :: rest => (takeCounting mode n rest).map fun (word, after) => (c :: word, after)

/-- Reads a code after `\x`, `\u` or `\U`: in braces, or with a fixed number of digits. -/
def readCode? (mode : Mode) (width : Nat) (text : List Char) : Option (Atom × List Char) := do
  let text := skip mode text
  let braced := text.head? = some '{'
  let (digits, rest) ←
    if braced then upToBrace mode false text.tail else takeCounting mode width text
  let c ← (← hexValue? digits) |> charOfCode?
  return (.literal c (!braced && width == 2), skip mode rest)

/-! ### Classes by name -/

/-- Splits a word at the first place where a separator stands. -/
def splitAtFirst (separator : List Char) : List Char → Option (List Char × List Char)
  | [] => none
  | c :: rest =>
    if separator.isPrefixOf (c :: rest) then some ([], (c :: rest).drop separator.length)
    else (splitAtFirst separator rest).map fun (left, right) => (c :: left, right)

/-- The class that the word in braces after `\p` names. -/
def classOfWord? (word : List Char) : Option CharSet :=
  match splitAtFirst ['!', '='] word <|> splitAtFirst [':'] word <|> splitAtFirst ['='] word with
  | some (property, value) => Unicode.classWithValue? property value
  | none => Unicode.classNamed? word

/-- Reads a class after `\p` or `\P`. -/
def readNamedClass? (mode : Mode) (negated : Bool) (text : List Char) :
    Option (Atom × List Char) := do
  let (named, rest) ← match skip mode text with
    | '{' :: rest => do
      let (word, rest) ← upToBrace mode false rest
      pure (classOfWord? word, rest)
    | '\\' :: _ => none
    | c :: rest => pure (Unicode.classNamed? [c], skip mode rest)
    | [] => none
  guard mode.unicode
  return (.oneOf (← finishClass mode negated (← named)), rest)

/-! ### Escapes -/

/-- The edges that a word in braces after `\b` names. -/
def edgeNamed? (word : List Char) : Option WordEdge :=
  match String.ofList word with
  | "start" => some .start
  | "end" => some .finish
  | "start-half" => some .startHalf
  | "end-half" => some .finishHalf
  | _ => none

/-- Reads what follows `\b`: the name of a kind of edge in braces, or nothing. Braces that begin
with neither a letter nor a hyphen are left alone. -/
def readEdge? (mode : Mode) (text : List Char) : Option (Atom × List Char) :=
  match text with
  | '{' :: rest =>
    match skip mode rest with
    | [] => none
    | c :: rest' =>
      if c.isAlpha || c = '-' then do
        let (word, after) ← upToBrace mode false (c :: rest')
        return (edge mode (← edgeNamed? word), after)
      else some (edge mode .boundary, text)
  | _ => some (edge mode .boundary, text)

/-- ASCII characters other than letters, digits and angle brackets may be escaped for no
reason. -/
def isEscapable (c : Char) : Bool :=
  c.val < 128 && !c.isAlphanum && c != '<' && c != '>'

/-- Reads what follows a backslash. -/
def readEscape? (mode : Mode) : List Char → Option (Atom × List Char)
  | [] => none
  | c :: rest =>
    if isEscapable c then some (.literal c false, rest)
    else match c with
      | 'x' => readCode? mode 2 rest
      | 'u' => readCode? mode 4 rest
      | 'U' => readCode? mode 8 rest
      | 'p' => readNamedClass? mode false rest
      | 'P' => readNamedClass? mode true rest
      | 'a' => some (.literal '\x07' false, rest)
      | 'f' => some (.literal '\x0C' false, rest)
      | 't' => some (.literal '\t' false, rest)
      | 'n' => some (.literal '\n' false, rest)
      | 'r' => some (.literal '\r' false, rest)
      | 'v' => some (.literal '\x0B' false, rest)
      | 'A' => some (.look .textStart, rest)
      | 'z' => some (.look .textEnd, rest)
      | 'b' => readEdge? mode rest
      | 'B' => some (edge mode .inside, rest)
      | '<' => some (edge mode .start, rest)
      | '>' => some (edge mode .finish, rest)
      | _ => (letterClass? mode c).map fun s => (.oneOf s, rest)

end StablePath.Pattern
