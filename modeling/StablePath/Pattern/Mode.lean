import StablePath.CharSet

/-!
The modes under which the parts of a pattern are read.

Modes are set by letters in a group, `(?im-s)` for the rest of the enclosing group or `(?im-s:…)`
for the group itself.
-/

namespace StablePath.Pattern

structure Mode where
  /-- Letters match whatever their case. -/
  caseless : Bool := false
  /-- `^` and `$` stand for the ends of lines. -/
  lines : Bool := false
  /-- `.` matches line ends. -/
  dotAll : Bool := false
  /-- The greedy and the lazy form of a repetition change places. -/
  lazy : Bool := false
  /-- Classes are those of all code points, not of ASCII only. -/
  unicode : Bool := true
  /-- A carriage return ends a line too. -/
  crlf : Bool := false
  /-- Blanks and comments do not count. -/
  spaced : Bool := false
  deriving DecidableEq, Inhabited

namespace Mode

/-- The last code of a class: without Unicode, of a byte. -/
def top (mode : Mode) : Nat := if mode.unicode then CharSet.lastCode else 0xFF

def letters : List Char := ['i', 'm', 's', 'U', 'u', 'R', 'x']

/-- Sets the mode of a letter. -/
def set (letter : Char) (on : Bool) (mode : Mode) : Mode :=
  match letter with
  | 'i' => { mode with caseless := on }
  | 'm' => { mode with lines := on }
  | 's' => { mode with dotAll := on }
  | 'U' => { mode with lazy := on }
  | 'u' => { mode with unicode := on }
  | 'R' => { mode with crlf := on }
  | 'x' => { mode with spaced := on }
  | _ => mode

/-- Reads mode letters up to a colon or a closing bracket. No letter and no hyphen comes twice, and
a hyphen, which switches off what follows, is not the last. -/
def read? (seen : List Char) (mode : Mode) : List Char → Option (Mode × List Char × List Char)
  | [] => none
  | c :: rest =>
    if c = ':' ∨ c = ')' then
      if seen.head? = some '-' then none else some (mode, seen, c :: rest)
    else if seen.contains c then none
    else if c = '-' then read? (c :: seen) mode rest
    else if letters.contains c then
      read? (c :: seen) (mode.set c (!seen.contains '-')) rest
    else none

end Mode

/-- White space in the sense of Unicode, which no longer changes. -/
def blanks : CharSet :=
  ⟨[(0x9, 0xD), (0x20, 0x20), (0x85, 0x85), (0xA0, 0xA0), (0x1680, 0x1680), (0x2000, 0x200A),
    (0x2028, 0x2029), (0x202F, 0x202F), (0x205F, 0x205F), (0x3000, 0x3000)]⟩

def isBlank (c : Char) : Bool := blanks.contains c.toNat

/-- Drops blanks and comments from the front of a text, which may begin inside a comment. -/
def dropBlanks : Bool → List Char → List Char
  | _, [] => []
  | true, c :: rest => dropBlanks (c != '\n') rest
  | false, c :: rest =>
    if isBlank c then dropBlanks false rest
    else if c = '#' then dropBlanks true rest
    else c :: rest

/-- Drops what does not count under a mode from the front of a text. -/
def skip (mode : Mode) (text : List Char) : List Char :=
  if mode.spaced then dropBlanks false text else text

/-- The text before a closing brace, without what does not count, and the text after it. -/
def upToBrace (mode : Mode) : Bool → List Char → Option (List Char × List Char)
  | _, [] => none
  | true, c :: rest => upToBrace mode (c != '\n') rest
  | false, c :: rest =>
    if c = '}' then some ([], rest)
    else if mode.spaced && isBlank c then upToBrace mode false rest
    else if mode.spaced && c = '#' then upToBrace mode true rest
    else (upToBrace mode false rest).map fun (word, after) => (c :: word, after)

end StablePath.Pattern
