/-!
Texts.

A text is a list of characters. An offset counts the bytes of its UTF-8 form, and only an offset on
a character boundary splits a text. Numbers are read from digits, and lines from a stream of bytes.
-/

namespace StablePath.Text

/-! ### Byte offsets -/

/-- The number of bytes of a text in UTF-8. -/
def width : List Char → Nat
  | [] => 0
  | c :: cs => c.utf8Size + width cs

@[simp] theorem width_nil : width [] = 0 := rfl
@[simp] theorem width_cons (c : Char) (cs : List Char) : width (c :: cs) = c.utf8Size + width cs :=
  rfl

@[simp] theorem width_append (a b : List Char) : width (a ++ b) = width a + width b := by
  induction a with
  | nil => simp
  | cons c a ih => simp [ih, Nat.add_assoc]

/-- Cuts a text at a byte offset, if a character starts or the text ends there. -/
def splitAt? : Nat → List Char → Option (List Char × List Char)
  | 0, cs => some ([], cs)
  | _ + 1, [] => none
  | n + 1, c :: cs =>
    if c.utf8Size ≤ n + 1 then
      (splitAt? (n + 1 - c.utf8Size) cs).map fun (left, right) => (c :: left, right)
    else none

/-- The text between two byte offsets. -/
def slice? (start stop : Nat) (cs : List Char) : Option (List Char) := do
  guard (start ≤ stop)
  let (_, right) ← splitAt? start cs
  let (middle, _) ← splitAt? (stop - start) right
  return middle

/-- Writes `middle` over the bytes from `start` to `stop`. The two cuts are taken apart, so
`stop` may lie before `start`. -/
def splice? (start stop : Nat) (middle cs : List Char) : Option (List Char) := do
  let (left, _) ← splitAt? start cs
  let (_, right) ← splitAt? stop cs
  return left ++ middle ++ right

@[simp] theorem splitAt?_zero (cs : List Char) : splitAt? 0 cs = some ([], cs) := by
  cases cs <;> rfl

/-- A cut gives the text back, and its left part has the width asked for. -/
theorem append_eq_of_splitAt? {n : Nat} {cs left right : List Char}
    (h : splitAt? n cs = some (left, right)) : left ++ right = cs ∧ width left = n := by
  fun_induction splitAt? n cs generalizing left right with
  | case1 => simp_all
  | case2 => simp at h
  | case3 n c cs hc ih =>
    simp only [Option.map_eq_some_iff, Prod.exists, Prod.mk.injEq] at h
    obtain ⟨l, r, hlr, rfl, rfl⟩ := h
    obtain ⟨happ, hw⟩ := ih hlr
    exact ⟨by simp [happ], by simp [hw]; omega⟩
  | case4 => simp at h

/-- Every boundary can be cut at. -/
theorem splitAt?_width (left right : List Char) :
    splitAt? (width left) (left ++ right) = some (left, right) := by
  induction left with
  | nil => simp
  | cons c left ih =>
    have hc := c.utf8Size_pos
    obtain ⟨n, hn⟩ : ∃ n, width (c :: left) = n + 1 := ⟨width (c :: left) - 1, by simp; omega⟩
    have hle : c.utf8Size ≤ n + 1 := by simp at hn; omega
    have hsub : n + 1 - c.utf8Size = width left := by simp at hn; omega
    rw [hn, List.cons_append, splitAt?, if_pos hle, hsub, ih]
    rfl

/-- Whether `needle` stands somewhere in a text. -/
def occursIn (needle : List Char) : List Char → Bool
  | [] => needle.isEmpty
  | c :: cs => needle.isPrefixOf (c :: cs) || occursIn needle cs

/-! ### Numbers -/

/-- The value of a decimal or hexadecimal digit. -/
def digitValue? (c : Char) : Option Nat :=
  if '0' ≤ c ∧ c ≤ '9' then some (c.toNat - '0'.toNat)
  else if 'a' ≤ c ∧ c ≤ 'f' then some (c.toNat - 'a'.toNat + 10)
  else if 'A' ≤ c ∧ c ≤ 'F' then some (c.toNat - 'A'.toNat + 10)
  else none

/-- The number that digits write in a base, a character that is no digit counting as zero. -/
def numeral (base : Nat) (digits : List Char) : Nat :=
  digits.foldl (fun n c => n * base + (digitValue? c).getD 0) 0

/-! ### Lines -/

/-- A line without the carriage return at its end, if there is one. -/
def dropReturn (line : List UInt8) : List UInt8 :=
  if line.getLast? = some 0x0D then line.dropLast else line

/-- The lines of a stream, of which some bytes, latest first, have already been read. A line feed
ends a line, with the carriage return before it; what stands after the last one is a line too. -/
def linesAfter (read : List UInt8) : List UInt8 → List (List UInt8)
  | [] => if read.isEmpty then [] else [read.reverse]
  | byte :: rest =>
    if byte = 0x0A then dropReturn read.reverse :: linesAfter [] rest
    else linesAfter (byte :: read) rest

def lines (bytes : List UInt8) : List (List UInt8) := linesAfter [] bytes

/-- The text that bytes encode, if they do. -/
def decode? (bytes : List UInt8) : Option String := String.fromUTF8? ⟨bytes.toArray⟩

end StablePath.Text
