import StablePath.Toml.Reader
import Mathlib.Algebra.GroupWithZero.Nat
import Mathlib.Data.List.Basic

/-!
Writing gaps, strings and keys.

A gap, a string or a key can be written in many ways. The relations here say in which, without a
look at the reader, and the lemmas say that the reader undoes each of them, whatever follows.
-/

namespace StablePath.Toml

/-! ### Gaps -/

/-- Blanks, line ends and comments, as they stand between lines and between the parts of a value. -/
inductive Gap : List Char → Prop
  | nil : Gap []
  | blank {c rest} (blank : isBlank c = true) (more : Gap rest) : Gap (c :: rest)
  | newline {rest} (more : Gap rest) : Gap ('\n' :: rest)
  | comment {words rest} (plain : ∀ c ∈ words, isPlain c = true) (more : Gap rest) :
      Gap ('#' :: (words ++ '\n' :: rest))

/-- The end of a line, which a comment may stand before. -/
inductive LineEnd : List Char → Prop
  | newline : LineEnd ['\n']
  | comment {words} (plain : ∀ c ∈ words, isPlain c = true) : LineEnd ('#' :: (words ++ ['\n']))
  | blank {c rest} (blank : isBlank c = true) (more : LineEnd rest) : LineEnd (c :: rest)

/-- Blanks within a line. -/
def Blanks (text : List Char) : Prop := ∀ c ∈ text, isBlank c = true

/-- A text has something else than a gap at its front. -/
def Solid (text : List Char) : Prop :=
  ∀ c ∈ text.head?, isBlank c = false ∧ c ≠ '\n' ∧ c ≠ '\r' ∧ c ≠ '#'

section

variable {c : Char} {text rest words gap : List Char}

/-- A word is taken off a text up to the first character of another kind. -/
lemma takeWhile_append_of {p : Char → Bool} {word : List Char} (hword : ∀ c ∈ word, p c = true)
    (hrest : ∀ c ∈ rest.head?, p c = false) : (word ++ rest).takeWhile p = word := by
  rw [List.takeWhile_append_of_pos hword]
  cases rest with
  | nil => simp
  | cons c rest => simp [hrest c rfl]

lemma dropBlanks_append (h : Blanks gap) : dropBlanks (gap ++ rest) = dropBlanks rest :=
  List.dropWhile_append_of_pos h

lemma dropBlanks_cons (h : isBlank c = true) : dropBlanks (c :: rest) = dropBlanks rest :=
  List.dropWhile_cons_of_pos h

lemma dropBlanks_eq_self (h : ∀ c ∈ text.head?, isBlank c = false) : dropBlanks text = text := by
  cases text with
  | nil => rfl
  | cons c rest => exact List.dropWhile_cons_of_neg (by simp [h c rfl])

lemma solid_cons (h : isBlank c = false ∧ c ≠ '\n' ∧ c ≠ '\r' ∧ c ≠ '#') : Solid (c :: rest) :=
  fun _ hd => Option.some.inj hd ▸ h

lemma Solid.dropBlanks (h : Solid text) : dropBlanks text = text :=
  dropBlanks_eq_self fun c hc => (h c hc).1

lemma Solid.takeNewline? (h : Solid text) : takeNewline? text = none := by
  unfold Toml.takeNewline?
  split
  · exact absurd rfl (h _ rfl).2.1
  · exact absurd rfl (h _ rfl).2.2.1
  · rfl

lemma Solid.dropComment? (h : Solid text) : dropComment? text = some text := by
  unfold Toml.dropComment?
  split
  · exact absurd rfl (h _ rfl).2.2.2
  · rfl

/-- A comment reaches to the end of its line. -/
lemma dropComment?_words (h : ∀ c ∈ words, isPlain c = true) :
    dropComment? ('#' :: (words ++ '\n' :: rest)) = some ('\n' :: rest) := by
  have hwords : (words ++ '\n' :: rest).dropWhile isPlain = '\n' :: rest := by
    rw [List.dropWhile_append_of_pos h]
    rfl
  simp [dropComment?, hwords, takeNewline?]

/-- A gap is skipped, up to what is none. -/
lemma skipLines?_gap (hgap : Gap gap) (h : Solid rest) {fuel : Nat} (hfuel : gap.length ≤ fuel) :
    skipLines? fuel (gap ++ rest) = some rest := by
  induction hgap generalizing fuel with
  | nil =>
    cases fuel with
    | zero => rfl
    | succ fuel => simp [skipLines?, h.dropBlanks, h.dropComment?, h.takeNewline?]
  | @blank c more blank _ ih =>
    obtain ⟨fuel, rfl⟩ := Nat.exists_eq_succ_of_ne_zero (Nat.ne_of_gt (Nat.lt_of_lt_of_le
      (Nat.succ_pos _) hfuel))
    have hmore : skipLines? (fuel + 1) (more ++ rest) = some rest :=
      ih (by simp only [List.length_cons] at hfuel; omega)
    rw [skipLines?] at hmore
    rw [List.cons_append, skipLines?, dropBlanks_cons blank]
    exact hmore
  | newline _ ih =>
    cases fuel with
    | zero => simp at hfuel
    | succ fuel =>
      have hblanks : ∀ more, dropBlanks ('\n' :: more) = '\n' :: more := fun more => rfl
      simp only [List.cons_append, skipLines?, hblanks, dropComment?, takeNewline?,
        Option.bind_eq_bind]
      exact ih (by simpa using hfuel)
  | @comment words more plain _ ih =>
    cases fuel with
    | zero => simp at hfuel
    | succ fuel =>
      have hblanks : ∀ more, dropBlanks ('#' :: more) = '#' :: more := fun more => rfl
      simp only [List.cons_append, List.append_assoc, skipLines?, hblanks,
        dropComment?_words plain, takeNewline?, Option.bind_eq_bind, Option.bind_some]
      exact ih (by simp only [List.length_cons, List.length_append] at hfuel; omega)

lemma readLineEnd?_lineEnd (h : LineEnd text) : readLineEnd? (text ++ rest) = some rest := by
  induction h with
  | newline => simp [readLineEnd?, dropBlanks, isBlank, dropComment?, takeNewline?]
  | comment plain =>
    have hblanks : ∀ more, dropBlanks ('#' :: more) = '#' :: more := fun more => rfl
    simp only [readLineEnd?, List.cons_append, List.append_assoc, List.nil_append, hblanks,
      dropComment?_words plain]
    rfl
  | blank blank _ ih =>
    rw [← ih]
    simp only [readLineEnd?, List.cons_append, dropBlanks_cons blank]

end

/-! ### Strings -/

/-- The letters of the short escapes and the characters that they stand for. -/
def shortEscapes : List (Char × Char) :=
  [('b', '\x08'), ('t', '\t'), ('n', '\n'), ('f', '\x0C'), ('r', '\r'), ('e', '\x1B'), ('"', '"'),
    ('\\', '\\')]

/-- The letters of the escapes that give the code of a character, and the number of digits. -/
def codeEscapes : List (Char × Nat) := [('x', 2), ('u', 4), ('U', 8)]

/-- A character is written in double quotes as itself, by a short escape or by its code. -/
inductive Escaped (c : Char) : List Char → Prop
  | plain (plain : isPlain c = true) (quote : c ≠ '"') (backslash : c ≠ '\\') : Escaped c [c]
  | short {letter} (letter_mem : (letter, c) ∈ shortEscapes) : Escaped c ['\\', letter]
  | code {letter width digits} (letter_mem : (letter, width) ∈ codeEscapes)
      (length : digits.length = width) (hex : ∀ d ∈ digits, isHexDigit d = true)
      (numeral : Text.numeral 16 digits = c.toNat) : Escaped c ('\\' :: letter :: digits)

/-- The characters of a string as they are written in double quotes, and the closing quote. -/
inductive EscapedLine : List Char → List Char → Prop
  | nil : EscapedLine [] ['"']
  | cons {c text s line} (head : Escaped c text) (tail : EscapedLine s line) :
      EscapedLine (c :: s) (text ++ line)

/-- A string is written on one line in double quotes, or in single ones if it may. -/
inductive Quoted (s : String) : List Char → Prop
  | double {line} (line_of : EscapedLine s.toList line) : Quoted s ('"' :: line)
  | single (plain : ∀ c ∈ s.toList, isPlain c = true ∧ c ≠ '\'') :
      Quoted s ('\'' :: (s.toList ++ ['\'']))

section

variable {c : Char} {s : String} {text rest : List Char}

lemma readCode?_digits {digits : List Char} (hex : ∀ d ∈ digits, isHexDigit d = true)
    (numeral : Text.numeral 16 digits = c.toNat) :
    readCode? digits.length (digits ++ rest) = some (c, rest) := by
  have htake : (digits ++ rest).take digits.length = digits := List.take_left
  have hdrop : (digits ++ rest).drop digits.length = rest := List.drop_left
  have hvalid : (Text.numeral 16 digits).isValidChar := numeral ▸ c.valid
  unfold readCode?
  rw [htake, hdrop]
  dsimp only
  rw [guard, if_pos ⟨rfl, List.all_eq_true.mpr hex⟩, dif_pos hvalid]
  refine congrArg (fun c => some (c, rest)) (Char.ext (UInt32.toNat_inj.mp ?_))
  exact numeral

lemma readEscape?_short {letter : Char} (h : (letter, c) ∈ shortEscapes) :
    readEscape? (letter :: rest) = some (c, rest) := by
  simp only [shortEscapes, List.mem_cons, Prod.mk.injEq, List.not_mem_nil, or_false] at h
  rcases h with ⟨rfl, rfl⟩ | ⟨rfl, rfl⟩ | ⟨rfl, rfl⟩ | ⟨rfl, rfl⟩ | ⟨rfl, rfl⟩ | ⟨rfl, rfl⟩ |
    ⟨rfl, rfl⟩ | ⟨rfl, rfl⟩ <;> rfl

lemma readEscape?_code {letter : Char} {width : Nat} (h : (letter, width) ∈ codeEscapes) :
    readEscape? (letter :: rest) = readCode? width rest := by
  simp only [codeEscapes, List.mem_cons, Prod.mk.injEq, List.not_mem_nil, or_false] at h
  rcases h with ⟨rfl, rfl⟩ | ⟨rfl, rfl⟩ | ⟨rfl, rfl⟩ <;> rfl

lemma Escaped.length_pos (h : Escaped c text) : 0 < text.length := by
  cases h <;> exact Nat.succ_pos _

/-- A character as it is written is one round of the reader. -/
lemma Escaped.readLine? (h : Escaped c text) (fuel : Nat) :
    readLine? '"' (fuel + 1) (text ++ rest) =
      (readLine? '"' fuel rest).map fun found => (c :: found.1, found.2) := by
  have hmap : ∀ found : Option (List Char × List Char),
      (found.bind fun found => some (c :: found.1, found.2)) =
        found.map fun found => (c :: found.1, found.2) := by
    intro found
    cases found <;> rfl
  cases h with
  | plain plain quote backslash =>
    simp only [List.cons_append, List.nil_append, Toml.readLine?, quote, backslash, false_and,
      plain, if_true, if_false]
  | short letter_mem =>
    simp only [List.cons_append, List.nil_append, Toml.readLine?, readEscape?_short letter_mem,
      Option.bind_eq_bind, Option.bind_some, Option.pure_def, hmap, and_self, if_true,
      if_neg (show '\\' ≠ '"' by decide)]
  | code letter_mem length hex numeral =>
    simp only [List.cons_append, Toml.readLine?, readEscape?_code letter_mem, ← length,
      readCode?_digits hex numeral, Option.bind_eq_bind, Option.bind_some, Option.pure_def, hmap,
      and_self, if_true, if_neg (show '\\' ≠ '"' by decide)]

lemma EscapedLine.readLine? {s line : List Char} (h : EscapedLine s line) {fuel : Nat}
    (hfuel : line.length ≤ fuel) : readLine? '"' fuel (line ++ rest) = some (s, rest) := by
  induction h generalizing fuel with
  | nil =>
    obtain ⟨fuel, rfl⟩ : ∃ n, fuel = n + 1 := ⟨fuel - 1, by simp at hfuel; omega⟩
    simp [Toml.readLine?]
  | cons head tail ih =>
    have hpos := head.length_pos
    rw [List.length_append] at hfuel
    obtain ⟨fuel, rfl⟩ : ∃ n, fuel = n + 1 := ⟨fuel - 1, by omega⟩
    rw [List.append_assoc, head.readLine?, ih (by omega)]
    rfl

lemma readLine?_single {s : List Char} (h : ∀ c ∈ s, isPlain c = true ∧ c ≠ '\'') {fuel : Nat}
    (hfuel : s.length < fuel) :
    readLine? '\'' fuel (s ++ '\'' :: rest) = some (s, rest) := by
  induction s generalizing fuel with
  | nil =>
    obtain ⟨fuel, rfl⟩ : ∃ n, fuel = n + 1 := ⟨fuel - 1, by omega⟩
    simp [Toml.readLine?]
  | cons c s ih =>
    obtain ⟨⟨hplain, hquote⟩, hs⟩ := List.forall_mem_cons.mp h
    obtain ⟨fuel, rfl⟩ : ∃ n, fuel = n + 1 := ⟨fuel - 1, by omega⟩
    simp only [List.cons_append, Toml.readLine?, hquote, hplain, if_true, if_false,
      ih hs (Nat.lt_of_succ_lt_succ hfuel), if_neg (show ¬(c = '\\' ∧ '\'' = '"') by simp)]
    rfl

/-- **A string that is written on one line is read back**, whatever follows. -/
lemma Quoted.readOneLine? (h : Quoted s text) : readOneLine? (text ++ rest) = some (s, rest) := by
  cases h with
  | @double line line_of =>
    have hline : readLine? '"' ('"' :: (line ++ rest)).length (line ++ rest) =
        some (s.toList, rest) :=
      line_of.readLine? (by simp only [List.length_cons, List.length_append]; omega)
    simp only [List.cons_append, Toml.readOneLine?, hline]
    simp
  | single plain =>
    have hline : readLine? '\'' ('\'' :: (s.toList ++ '\'' :: rest)).length
        (s.toList ++ '\'' :: rest) = some (s.toList, rest) :=
      readLine?_single plain (by simp only [List.length_cons, List.length_append]; omega)
    simp only [List.cons_append, List.append_assoc, List.nil_append, Toml.readOneLine?, hline]
    simp

lemma Quoted.head? (h : Quoted s text) :
    ∃ quote line, (quote = '"' ∨ quote = '\'') ∧ text = quote :: line := by
  cases h with
  | double => exact ⟨_, _, Or.inl rfl, rfl⟩
  | single => exact ⟨_, _, Or.inr rfl, rfl⟩

lemma Escaped.ne_quote (h : Escaped c text) : ∃ d more, text = d :: more ∧ d ≠ '"' := by
  cases h with
  | plain _ quote _ => exact ⟨_, _, rfl, quote⟩
  | short => exact ⟨_, _, rfl, by decide⟩
  | code => exact ⟨_, _, rfl, by decide⟩

/-- No string that is written on one line begins with threefold quotes, unless a quote follows. -/
lemma Quoted.not_threefold (h : Quoted s text) (hrest : ∀ c ∈ rest.head?, c ≠ '"' ∧ c ≠ '\'')
    {a b c : Char} {more : List Char} (heq : text ++ rest = a :: b :: c :: more) :
    ¬((a = '"' ∨ a = '\'') ∧ b = a ∧ c = a) := by
  rintro ⟨-, rfl, rfl⟩
  cases h with
  | double line_of =>
    obtain ⟨rfl, htail⟩ := List.cons.inj heq
    generalize s.toList = chars at line_of
    cases line_of with
    | nil =>
      obtain ⟨-, rfl⟩ := List.cons.inj htail
      exact (hrest '"' rfl).1 rfl
    | cons head tail =>
      obtain ⟨d, more', rfl, hd⟩ := head.ne_quote
      exact hd (List.cons.inj htail).1
  | single plain =>
    obtain ⟨rfl, htail⟩ := List.cons.inj heq
    generalize s.toList = chars at plain htail
    cases chars with
    | nil =>
      obtain ⟨-, rfl⟩ := List.cons.inj htail
      exact (hrest '\'' rfl).2 rfl
    | cons d chars => exact (plain d List.mem_cons_self).2 (List.cons.inj htail).1

lemma Quoted.readString? (h : Quoted s text) (hrest : ∀ c ∈ rest.head?, c ≠ '"' ∧ c ≠ '\'') :
    readString? (text ++ rest) = some (s, rest) := by
  unfold Toml.readString?
  split
  next a b c more heq => rw [if_neg (h.not_threefold hrest heq), h.readOneLine?]
  · rw [h.readOneLine?]

end

/-! ### Every string can be written -/

lemma digitValue?_digitChar : ∀ d < 16, Text.digitValue? (Nat.digitChar d) = some d := by decide

lemma numeral_concat {base : Nat} {digits : List Char} {c : Char} {d : Nat}
    (h : Text.digitValue? c = some d) :
    Text.numeral base (digits ++ [c]) = Text.numeral base digits * base + d := by
  simp [Text.numeral, h]

/-- A number below a power of sixteen has as many digits. -/
lemma exists_hex_digits (width n : Nat) (h : n < 16 ^ width) : ∃ digits : List Char,
    digits.length = width ∧ (∀ d ∈ digits, isHexDigit d = true) ∧ Text.numeral 16 digits = n := by
  induction width generalizing n with
  | zero =>
    obtain rfl : n = 0 := by simpa using h
    exact ⟨[], rfl, by simp, rfl⟩
  | succ width ih =>
    obtain ⟨digits, hlength, hhex, hvalue⟩ := ih (n / 16)
      (Nat.div_lt_of_lt_mul (by rw [Nat.mul_comm, ← Nat.pow_succ]; exact h))
    have hlast := digitValue?_digitChar (n % 16) (Nat.mod_lt n (by decide))
    refine ⟨digits ++ [Nat.digitChar (n % 16)], by simp [hlength], fun d hd => ?_, ?_⟩
    · rcases List.mem_append.mp hd with hd | hd
      · exact hhex d hd
      · rw [List.mem_singleton.mp hd, isHexDigit, hlast]
        rfl
    · rw [numeral_concat hlast, hvalue]
      omega

lemma exists_escaped (c : Char) : ∃ text, Escaped c text := by
  obtain ⟨digits, hlength, hhex, hvalue⟩ := exists_hex_digits 8 c.toNat c.val.toNat_lt
  have hlong : ('U', 8) ∈ codeEscapes := by decide
  exact ⟨_, .code hlong hlength hhex hvalue⟩

lemma exists_escapedLine (s : List Char) : ∃ line, EscapedLine s line := by
  induction s with
  | nil => exact ⟨_, .nil⟩
  | cons c s ih =>
    obtain ⟨line, hline⟩ := ih
    obtain ⟨text, htext⟩ := exists_escaped c
    exact ⟨_, .cons htext hline⟩

lemma exists_quoted (s : String) : ∃ text, Quoted s text := by
  obtain ⟨line, hline⟩ := exists_escapedLine s.toList
  exact ⟨_, .double hline⟩

/-! ### Keys -/

/-- A key is written as it is if it may, or in quotes. -/
inductive KeyText (key : String) : List Char → Prop
  | bare (ne : key.toList ≠ []) (all : ∀ c ∈ key.toList, isBareKey c = true) :
      KeyText key key.toList
  | quoted {text} (quoted : Quoted key text) : KeyText key text

section

variable {key : String} {text rest gap gap' : List Char}

lemma isBareKey_of_isBlank {c : Char} (h : isBlank c = true) : isBareKey c = false := by
  simp only [isBlank, Bool.or_eq_true, beq_iff_eq] at h
  rcases h with rfl | rfl <;> decide

lemma not_isBareKey_quote {c : Char} (h : c = '"' ∨ c = '\'') : isBareKey c = false := by
  rcases h with rfl | rfl <;> decide

lemma KeyText.readSimpleKey? (h : KeyText key text)
    (hrest : ∀ c ∈ rest.head?, isBareKey c = false) :
    readSimpleKey? (text ++ rest) = some (key, rest) := by
  cases h with
  | quoted quoted => rw [Toml.readSimpleKey?, quoted.readOneLine?]
  | bare ne all =>
    have hword : (key.toList ++ rest).takeWhile isBareKey = key.toList :=
      takeWhile_append_of all hrest
    have hquote : readOneLine? (key.toList ++ rest) = none := by
      generalize key.toList = chars at ne all
      cases chars with
      | nil => exact absurd rfl ne
      | cons c chars =>
        have hc : ¬(c = '"' ∨ c = '\'') := fun hc => by
          simpa [not_isBareKey_quote hc] using all c List.mem_cons_self
        simp only [List.cons_append, readOneLine?, if_neg hc]
    have hempty : key.toList.isEmpty = false := by simpa using ne
    rw [Toml.readSimpleKey?, hquote]
    simp only [hword, hempty, List.drop_left, String.ofList_toList]
    rfl

/-- A character may begin a key. -/
def BeginsKey (c : Char) : Prop := isBareKey c = true ∨ c = '"' ∨ c = '\''

lemma KeyText.front (h : KeyText key text) : ∃ c more, text = c :: more ∧ BeginsKey c := by
  cases h with
  | bare ne all =>
    obtain ⟨c, more, heq⟩ := List.exists_cons_of_ne_nil ne
    exact ⟨c, more, heq, Or.inl (all c (heq ▸ List.mem_cons_self))⟩
  | quoted quoted =>
    obtain ⟨quote, line, hquote, heq⟩ := quoted.head?
    exact ⟨quote, line, heq, Or.inr hquote⟩

section

variable {c d : Char}

lemma BeginsKey.ne (h : BeginsKey c) (hd : isBareKey d = false ∧ d ≠ '"' ∧ d ≠ '\'') : c ≠ d := by
  rintro rfl
  rcases h with h | h | h
  · exact Bool.noConfusion (hd.1.symm.trans h)
  · exact hd.2.1 h
  · exact hd.2.2 h

lemma BeginsKey.solid (h : BeginsKey c) : Solid (c :: rest) := by
  have hblank : isBlank c = false := by
    simp [isBlank, h.ne (d := ' ') (by decide), h.ne (d := '\t') (by decide)]
  exact solid_cons ⟨hblank, h.ne (by decide), h.ne (by decide), h.ne (by decide)⟩

end

/-- A key with blanks around it is read up to the mark that follows. -/
lemma KeyText.readKey? (h : KeyText key text) (hgap : Blanks gap) (hgap' : Blanks gap') {c : Char}
    (hblank : isBlank c = false) (hbare : isBareKey c = false) (hdot : c ≠ '.') {fuel : Nat}
    (hfuel : 0 < fuel) :
    readKey? fuel (gap ++ (text ++ (gap' ++ c :: rest))) = some (⟨[], key⟩, c :: rest) := by
  obtain ⟨fuel, rfl⟩ : ∃ n, fuel = n + 1 := ⟨fuel - 1, by omega⟩
  have hafter : ∀ d ∈ (gap' ++ c :: rest).head?, isBareKey d = false := by
    intro d hd
    cases gap' with
    | nil => exact Option.some.inj hd ▸ hbare
    | cons e gap' => exact Option.some.inj hd ▸ isBareKey_of_isBlank (hgap' e List.mem_cons_self)
  have hmark : dropBlanks (gap' ++ c :: rest) = c :: rest := by
    rw [dropBlanks_append hgap']
    exact dropBlanks_eq_self fun d hd => Option.some.inj hd ▸ hblank
  have hfront : dropBlanks (text ++ (gap' ++ c :: rest)) = text ++ (gap' ++ c :: rest) := by
    obtain ⟨d, more, rfl, hd⟩ := h.front
    exact hd.solid.dropBlanks
  rw [Toml.readKey?, dropBlanks_append hgap, hfront, h.readSimpleKey? hafter]
  simp only [Option.bind_eq_bind, Option.bind_some, hmark]
  split
  next heq => exact absurd (List.cons.inj heq).1 hdot
  · rfl

end

end StablePath.Toml
