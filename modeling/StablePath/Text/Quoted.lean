import StablePath.Unicode.Property

/-!
Texts in quotes, as they are shown to the user.

A character that could not be seen, or not be told apart, is written as its code in braces.
-/

namespace StablePath.Text

/-- Characters without a shape of their own: controls, blanks other than the space, characters
that are not assigned, and marks that join the character before them. -/
def shapeless : CharSet :=
  .union (Unicode.inCategories ["Cc", "Cf", "Cs", "Co", "Cn", "Zl", "Zp", "Zs"])
    Unicode.graphemeExtend

/-- A code in braces, in hexadecimal digits. -/
def codeInBraces (c : Char) : List Char :=
  ['\\', 'u', '\x7b'] ++ Nat.toDigits 16 c.toNat ++ ['\x7d']

/-- One character inside quotes. -/
def quoteChar (c : Char) : List Char :=
  match c with
  | '\x00' => ['\\', '0']
  | '\t' => ['\\', 't']
  | '\r' => ['\\', 'r']
  | '\n' => ['\\', 'n']
  | '"' => ['\\', '"']
  | '\\' => ['\\', '\\']
  | ' ' => [' ']
  | c => if shapeless.contains c.toNat then codeInBraces c else [c]

/-- A text in double quotes. -/
def quote (text : List Char) : List Char := '"' :: text.flatMap quoteChar ++ ['"']

end StablePath.Text
