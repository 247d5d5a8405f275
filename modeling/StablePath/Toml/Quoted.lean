import StablePath.Text.Basic

/-!
Strings in quotes.

A string stands on one line in single quotes marks, or on several in threefold ones. In double
quotes a backslash begins an escape; in single quotes nothing does.
-/

namespace StablePath.Toml

/-- Characters that may stand in a string or a comment: all but controls, of which only the tab
may. -/
def isPlain (c : Char) : Bool := c == '\t' || (c.val ≥ 0x20 && c.val != 0x7F)

/-- Takes a line end off the front of a text. -/
def takeNewline? : List Char → Option (List Char)
  | '\n' :: rest => some rest
  | '\r' :: '\n' :: rest => some rest
  | _ => none

def isBlank (c : Char) : Bool := c == ' ' || c == '\t'

def dropBlanks (text : List Char) : List Char := text.dropWhile isBlank

/-- Drops blanks and line ends from the front of a text. -/
def dropBlankLines : List Char → List Char
  | '\n' :: rest => dropBlankLines rest
  | '\r' :: '\n' :: rest => dropBlankLines rest
  | c :: rest => if isBlank c then dropBlankLines rest else c :: rest
  | [] => []

/-- The character whose code is written in exactly so many hexadecimal digits. -/
def readCode? (width : Nat) (text : List Char) : Option (Char × List Char) := do
  let digits := text.take width
  guard (digits.length = width ∧ digits.all fun c => (Text.digitValue? c).isSome)
  let n := Text.numeral 16 digits
  if h : n.isValidChar then some (Char.ofNatAux n h, text.drop width) else none

/-- The character that an escape stands for, after its backslash. -/
def readEscape? : List Char → Option (Char × List Char)
  | 'b' :: rest => some ('\x08', rest)
  | 't' :: rest => some ('\t', rest)
  | 'n' :: rest => some ('\n', rest)
  | 'f' :: rest => some ('\x0C', rest)
  | 'r' :: rest => some ('\r', rest)
  | 'e' :: rest => some ('\x1B', rest)
  | '"' :: rest => some ('"', rest)
  | '\\' :: rest => some ('\\', rest)
  | 'x' :: rest => readCode? 2 rest
  | 'u' :: rest => readCode? 4 rest
  | 'U' :: rest => readCode? 8 rest
  | _ => none

/-- Reads a string on one line after its opening quote. Each round takes at least one character
off the text, so its length is fuel enough. -/
def readLine? (quote : Char) : Nat → List Char → Option (List Char × List Char)
  | 0, _ => none
  | _, [] => none
  | fuel + 1, c :: rest =>
    if c = quote then some ([], rest)
    else if c = '\\' ∧ quote = '"' then do
      let (c, rest) ← readEscape? rest
      let (text, rest) ← readLine? quote fuel rest
      return (c :: text, rest)
    else if isPlain c then
      (readLine? quote fuel rest).map fun (text, rest) => (c :: text, rest)
    else none

/-- Reads a string on several lines after its opening quotes. Of three to five quotes the last three
close it; a backslash at the end of a line joins it to the next text. -/
def readLines? (quote : Char) : Nat → List Char → Option (List Char × List Char)
  | 0, _ => none
  | fuel + 1, text =>
    match takeNewline? text with
    | some rest =>
      let newline := text.take (text.length - rest.length)
      (readLines? quote fuel rest).map fun (text, rest) => (newline ++ text, rest)
    | none =>
      match text with
      | [] => none
      | c :: rest =>
        if c = quote then
          let quotes := (text.takeWhile (· == quote)).length
          if 3 ≤ quotes then
            some (List.replicate (min quotes 5 - 3) quote, text.drop (min quotes 5))
          else (readLines? quote fuel rest).map fun (text, rest) => (c :: text, rest)
        else if c = '\\' ∧ quote = '"' then
          match takeNewline? (dropBlanks rest) with
          | some rest => readLines? quote fuel (dropBlankLines rest)
          | none => do
            let (c, rest) ← readEscape? rest
            let (text, rest) ← readLines? quote fuel rest
            return (c :: text, rest)
        else if isPlain c then
          (readLines? quote fuel rest).map fun (text, rest) => (c :: text, rest)
        else none

/-- Reads a string on one line that begins with a quote. -/
def readOneLine? (text : List Char) : Option (String × List Char) :=
  match text with
  | quote :: rest =>
    if quote = '"' ∨ quote = '\'' then
      (readLine? quote text.length rest).map fun (s, rest) => (String.ofList s, rest)
    else none
  | [] => none

/-- Reads a string of either kind. A line end right after threefold quotes does not count. -/
def readString? (text : List Char) : Option (String × List Char) :=
  match text with
  | a :: b :: c :: rest =>
    if (a = '"' ∨ a = '\'') ∧ b = a ∧ c = a then
      (readLines? a text.length ((takeNewline? rest).getD rest)).map fun (s, rest) =>
        (String.ofList s, rest)
    else readOneLine? text
  | _ => readOneLine? text

end StablePath.Toml
