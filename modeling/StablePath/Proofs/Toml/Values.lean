import StablePath.Proofs.Toml.Strings
import Mathlib.Data.List.Nodup
import Mathlib.Data.Option.Basic

/-!
Writing values.

A value is written by its constructors: numbers in decimal digits, flags by their names, and arrays
and tables by their parts, with gaps around them. The reader undoes all of it.
-/

namespace StablePath.Toml

/-! ### Numbers -/

section

variable {digits : List Char} {n : Nat}

lemma plainDigits?_eq_self {isDigit : Char → Bool} (hunder : isDigit '_' = false)
    (hne : digits ≠ []) (hall : ∀ c ∈ digits, isDigit c = true) :
    plainDigits? isDigit digits = some digits := by
  induction digits with
  | nil => exact absurd rfl hne
  | cons c rest ih =>
    obtain ⟨hc, hrest⟩ := List.forall_mem_cons.mp hall
    cases rest with
    | nil => simp [plainDigits?, hc]
    | cons d rest =>
      have hd : d ≠ '_' := by
        rintro rfl
        exact Bool.noConfusion (hunder.symm.trans (hrest '_' List.mem_cons_self))
      simp [plainDigits?, hc, hd, ih (List.cons_ne_nil d rest) hrest]

lemma numeral_toDigits (n : Nat) : Text.numeral 10 (Nat.toDigits 10 n) = n := by
  have hlast : ∀ d < 10, Text.digitValue? (Nat.digitChar d) = some d := fun d hd =>
    digitValue?_digitChar d (Nat.lt_trans hd (by decide))
  induction n using Nat.strongRecOn with
  | ind n ih =>
    by_cases hn : n < 10
    · rw [Nat.toDigits_of_lt_base hn]
      simp [Text.numeral, hlast n hn]
    · rw [Nat.toDigits_of_base_le (by decide) (Nat.le_of_not_lt hn),
        numeral_concat (hlast _ (Nat.mod_lt n (by decide))), ih (n / 10) (by omega)]
      omega

lemma isDigit_toDigits {c : Char} (h : c ∈ Nat.toDigits 10 n) : c.isDigit = true :=
  Nat.isDigit_of_mem_toDigits (by decide) (by decide) h

lemma head?_toDigits (h : 0 < n) : (Nat.toDigits 10 n).head? ≠ some '0' := by
  have hdigit : ∀ d < 10, 0 < d → Nat.digitChar d ≠ '0' := by decide
  induction n using Nat.strongRecOn with
  | ind n ih =>
    by_cases hn : n < 10
    · rw [Nat.toDigits_of_lt_base hn]
      simpa using hdigit n hn h
    · rw [Nat.toDigits_of_base_le (by decide) (Nat.le_of_not_lt hn),
        List.head?_append_of_ne_nil _ Nat.toDigits_ne_nil]
      exact ih (n / 10) (by omega) (by omega)

/-- Only zero is written with a zero at the front. -/
lemma wholeDigits?_toDigits (n : Nat) :
    wholeDigits? (Nat.toDigits 10 n) = some (Nat.toDigits 10 n) := by
  have hfront : (Nat.toDigits 10 n).length = 1 ∨ (Nat.toDigits 10 n).head? ≠ some '0' := by
    rcases Nat.eq_zero_or_pos n with rfl | hn
    · exact Or.inl rfl
    · exact Or.inr (head?_toDigits hn)
  rw [wholeDigits?, plainDigits?_eq_self (by decide) Nat.toDigits_ne_nil fun c => isDigit_toDigits,
    Option.bind_eq_bind, Option.bind_some, guard, if_pos hfront]
  rfl

lemma readInteger?_toDigits (h : n < 2 ^ 128) :
    readInteger? (Nat.toDigits 10 n) = some (n : Int) := by
  have hsign : takeSign (Nat.toDigits 10 n) = (false, Nat.toDigits 10 n) := by
    unfold takeSign
    split
    next heq => exact absurd (isDigit_toDigits (heq ▸ List.mem_cons_self)) (by decide)
    next heq => exact absurd (isDigit_toDigits (heq ▸ List.mem_cons_self)) (by decide)
    · rfl
  have hno : ∀ c d rest, c.isDigit = false → Nat.toDigits 10 n ≠ d :: c :: rest := by
    intro c d rest hc heq
    have hmem : c ∈ Nat.toDigits 10 n := heq ▸ List.mem_cons_of_mem d List.mem_cons_self
    exact Bool.noConfusion (hc.symm.trans (isDigit_toDigits hmem))
  have hbound : -Int.pow 2 127 ≤ (n : Int) ∧ (n : Int) < Int.pow 2 128 := by
    have hlow : Int.pow 2 127 = 2 ^ 127 := rfl
    have hhigh : Int.pow 2 128 = 2 ^ 128 := rfl
    omega
  unfold readInteger?
  split
  next rest heq => exact absurd heq (hno 'x' _ _ (by decide))
  next rest heq => exact absurd heq (hno 'o' _ _ (by decide))
  next rest heq => exact absurd heq (hno 'b' _ _ (by decide))
  next =>
    -- Step by step, since the decision of the bounds depends on the number.
    rw [hsign]
    dsimp only
    rw [wholeDigits?_toDigits, Option.map_some, numeral_toDigits, if_neg Bool.false_ne_true,
      Option.bind_eq_bind, Option.bind_some, guard, if_pos hbound]
    rfl

lemma readScalar?_toDigits (h : n < 2 ^ 128) :
    readScalar? (Nat.toDigits 10 n) = some (.integer n) := by
  have hno : ∀ c rest, c.isDigit = false → Nat.toDigits 10 n ≠ c :: rest := by
    intro c rest hc heq
    have hmem : c ∈ Nat.toDigits 10 n := heq ▸ List.mem_cons_self
    exact Bool.noConfusion (hc.symm.trans (isDigit_toDigits hmem))
  rw [readScalar?, if_neg (hno 't' _ (by decide)), if_neg (hno 'f' _ (by decide)),
    readInteger?_toDigits h]

end

/-! ### What follows a value -/

/-- A text may follow a value. A blank must not stand before a digit, since it could join a date to
a time. -/
def Follows (text : List Char) : Prop :=
  ∃ c more, text = c :: more ∧ isScalarEnd c = true ∧
    (c = ' ' → ∀ d ∈ more.head?, d.isDigit = false)

section

variable {c : Char} {text word gap rest : List Char}

lemma not_isDigit_of_isScalarEnd (h : isScalarEnd c = true) : c.isDigit = false := by
  simp only [isScalarEnd, isBlank, Bool.or_eq_true, beq_iff_eq] at h
  rcases h with ((((((h | rfl) | rfl) | rfl) | rfl) | rfl) | rfl)
  · rcases h with rfl | rfl <;> decide
  all_goals decide

lemma ne_quote_of_isScalarEnd (h : isScalarEnd c = true) : c ≠ '"' ∧ c ≠ '\'' := by
  constructor <;> rintro rfl <;> exact absurd h (by decide)

lemma isScalarEnd_of_isBlank (h : isBlank c = true) : isScalarEnd c = true := by
  simp [isScalarEnd, h]

lemma solid_of_not_isScalarEnd (h : isScalarEnd c = false) : Solid (c :: rest) := by
  simp only [isScalarEnd, Bool.or_eq_false_iff, beq_eq_false_iff_ne] at h
  exact solid_cons ⟨h.1.1.1.1.1.1, h.1.1.1.1.1.2, h.1.1.1.1.2, h.2⟩

lemma follows_of_heads {more : List Char} (hc : isScalarEnd c = true)
    (hmore : ∀ d ∈ more.head?, isScalarEnd d = true) : Follows (c :: more) :=
  ⟨c, more, rfl, hc, fun _ d hd => not_isDigit_of_isScalarEnd (hmore d hd)⟩

lemma Follows.head? (h : Follows text) : ∀ c ∈ text.head?, isScalarEnd c = true := by
  obtain ⟨c, more, rfl, hc, -⟩ := h
  exact fun d hd => Option.some.inj hd ▸ hc

/-- A gap and the mark after it may follow a value. -/
lemma Gap.follows (h : Gap gap) (hc : isScalarEnd c = true) (hne : c ≠ ' ') :
    Follows (gap ++ c :: rest) := by
  have hmark : Follows (c :: rest) := ⟨c, rest, rfl, hc, fun heq => absurd heq hne⟩
  induction h with
  | nil => exact hmark
  | blank blank _ ih => exact follows_of_heads (isScalarEnd_of_isBlank blank) ih.head?
  | newline | comment => exact ⟨_, _, rfl, by decide, fun heq => absurd heq (by decide)⟩

lemma LineEnd.follows (h : LineEnd text) : Follows (text ++ rest) := by
  induction h with
  | newline | comment => exact ⟨_, _, rfl, by decide, fun heq => absurd heq (by decide)⟩
  | blank blank _ ih => exact follows_of_heads (isScalarEnd_of_isBlank blank) ih.head?

lemma takeScalar_append (hword : ∀ c ∈ word, isScalarEnd c = false) (h : Follows rest) :
    takeScalar (word ++ rest) = (word, rest) := by
  have htake : (word ++ rest).takeWhile (fun c => !isScalarEnd c) = word :=
    takeWhile_append_of (by simpa using hword) (by simpa using h.head?)
  unfold takeScalar
  simp only [htake, List.drop_left]
  split
  next c more =>
    obtain ⟨_, _, heq, -, hdigit⟩ := h
    obtain ⟨rfl, rfl⟩ := List.cons.inj heq
    rw [if_neg (by simp [hdigit rfl c rfl])]
  · rfl

end

/-! ### Values -/

/-- Parts of values that are read on their own: a value, an entry of a table, and the items of an
array or the entries of a table up to the closing bracket. -/
inductive Part
  | value (value : Value)
  | entry (key : String) (value : Value)
  | items (items : List Value)
  | entries (entries : Entries)

/-- A text spells a part at a depth. Scalars other than strings, decimal numbers and flags are
spelled by any word that stands for them. -/
inductive Spells : Nat → Part → List Char → Prop
  | string {depth s text} (quoted : Quoted s text) : Spells depth (.value (.string s)) text
  | number {depth} {n : Nat} (bound : n < 2 ^ 128) :
      Spells depth (.value (.integer n)) (Nat.toDigits 10 n)
  | flag {depth} (b : Bool) : Spells depth (.value (.boolean b)) (toString b).toList
  | word {depth value c word} (reads : readScalar? (c :: word) = some value)
      (plain : ∀ d ∈ c :: word, isScalarEnd d = false) (first : c ∉ ['[', '{', '"', '\'']) :
      Spells depth (.value value) (c :: word)
  | array {depth items text} (shallow : depth < depthLimit)
      (parts : Spells (depth + 1) (.items items) text) :
      Spells depth (.value (.array items)) ('[' :: text)
  | table {depth entries text} (shallow : depth < depthLimit)
      (keys : (entries.map Prod.fst).Nodup) (parts : Spells (depth + 1) (.entries entries) text) :
      Spells depth (.value (.table .inline entries)) ('{' :: text)
  | entry {depth key value name before after text} (key_text : KeyText key name)
      (blanks : Blanks before) (blanks' : Blanks after)
      (spells : Spells depth (.value value) text) :
      Spells depth (.entry key value) (name ++ (before ++ '=' :: (after ++ text)))
  | noItems {depth before} (gap : Gap before) : Spells depth (.items []) (before ++ [']'])
  | lastItem {depth value before text after} (gap : Gap before)
      (spells : Spells depth (.value value) text) (gap' : Gap after) :
      Spells depth (.items [value]) (before ++ (text ++ (after ++ [']'])))
  | item {depth value items before text after more} (gap : Gap before)
      (spells : Spells depth (.value value) text) (gap' : Gap after)
      (rest : Spells depth (.items items) more) :
      Spells depth (.items (value :: items)) (before ++ (text ++ (after ++ ',' :: more)))
  | noEntries {depth before} (gap : Gap before) : Spells depth (.entries []) (before ++ ['}'])
  | lastEntry {depth key value before text after} (gap : Gap before)
      (spells : Spells depth (.entry key value) text) (gap' : Gap after) :
      Spells depth (.entries [(key, value)]) (before ++ (text ++ (after ++ ['}'])))
  | moreEntries {depth key value entries before text after more} (gap : Gap before)
      (spells : Spells depth (.entry key value) text) (gap' : Gap after)
      (rest : Spells depth (.entries entries) more) :
      Spells depth (.entries ((key, value) :: entries)) (before ++ (text ++ (after ++ ',' :: more)))

/-! ### One round of the reader -/

section

variable {fuel depth : Nat} {c : Char} {text more before after rest : List Char} {value : Value}
  {key : String} {found : Entries}

lemma readValue?_quoted (hc : c = '"' ∨ c = '\'') {s : String}
    (h : readString? (c :: more) = some (s, rest)) :
    readValue? (fuel + 1) depth (c :: more) = some (.string s, rest) := by
  rcases hc with rfl | rfl <;> simp [readValue?, h]

lemma readValue?_word (hc : c ∉ ['[', '{', '"', '\'']) {word : List Char}
    (htake : takeScalar (c :: more) = (word, rest)) (hread : readScalar? word = some value) :
    readValue? (fuel + 1) depth (c :: more) = some (value, rest) := by
  simp only [List.mem_cons, List.not_mem_nil, or_false, not_or] at hc
  obtain ⟨hbracket, hbrace, hdouble, hsingle⟩ := hc
  rw [readValue?]
  · simp [hdouble, hsingle, htake, hread]
  · exact fun rest heq => hbracket (List.cons.inj heq).1
  · exact fun rest heq => hbrace (List.cons.inj heq).1

lemma skipLines?_front (h : Gap before) (hc : isScalarEnd c = false) :
    skipLines? (before ++ c :: more).length (before ++ c :: more) = some (c :: more) :=
  skipLines?_gap h (solid_of_not_isScalarEnd hc) (by simp)

lemma skipLines?_mark (h : Gap after) (hc : c = ',' ∨ c = ']' ∨ c = '}') :
    skipLines? (after ++ c :: more).length (after ++ c :: more) = some (c :: more) := by
  refine skipLines?_gap h (solid_cons ?_) (by simp)
  rcases hc with rfl | rfl | rfl <;> decide

lemma readItems?_close (h : Gap before) :
    readItems? (fuel + 1) depth (before ++ ']' :: rest) = some ([], rest) := by
  rw [readItems?, skipLines?_mark h (by simp)]
  rfl

/-- An item is read as a value, and the mark after it says whether there are more. -/
lemma readItems?_item {mark : Char} (h : Gap before) (hc : isScalarEnd c = false)
    (hread : readValue? fuel depth (c :: more) = some (value, after ++ mark :: rest))
    (h' : Gap after) :
    (mark = ',' → readItems? (fuel + 1) depth (before ++ c :: more) =
      (readItems? fuel depth rest).map fun found => (value :: found.1, found.2)) ∧
    (mark = ']' → readItems? (fuel + 1) depth (before ++ c :: more) = some ([value], rest)) := by
  have hbracket : c ≠ ']' := by
    rintro rfl
    exact absurd hc (by decide)
  rw [readItems?, skipLines?_front h hc, Option.bind_eq_bind, Option.bind_some]
  split
  next heq => exact absurd (List.cons.inj heq).1 hbracket
  next =>
    constructor <;> rintro rfl
    · simp only [hread, Option.bind_eq_bind, Option.bind_some, skipLines?_mark h' (Or.inl rfl)]
      cases readItems? fuel depth rest <;> rfl
    · simp only [hread, Option.bind_eq_bind, Option.bind_some,
        skipLines?_mark h' (Or.inr (Or.inl rfl))]
      rfl

lemma readEntries?_close (h : Gap before) :
    readEntries? (fuel + 1) depth found (before ++ '}' :: rest) = some (found, rest) := by
  rw [readEntries?, skipLines?_mark h (by simp)]
  rfl

lemma Entries.get?_eq_none_iff : found.get? key = none ↔ key ∉ found.map Prod.fst := by
  rw [get?, List.lookup_eq_none_iff]
  constructor
  · intro h hmem
    obtain ⟨entry, hentry, rfl⟩ := List.mem_map.mp hmem
    simpa using h entry hentry
  · intro h entry hentry
    have hne : key ≠ entry.1 := fun heq => h (heq ▸ List.mem_map_of_mem hentry)
    simpa using hne

/-- A key that is new to a table is added to its entries. -/
lemma assign?_of_new {origin : Origin} (horigin : origin ≠ .dotted)
    (h : key ∉ found.map Prod.fst) :
    Entries.assign? [] key value origin found = some (found ++ [(key, value)]) := by
  have hnone : found.get? key = none := Entries.get?_eq_none_iff.mpr h
  simp [Entries.assign?, Entries.within?, Entries.add?, hnone, horigin]

/-- An entry is read as a key and a value, and the mark after it says whether there are more. -/
lemma readEntries?_entry {mark : Char} (h : Gap before) (hc : BeginsKey c)
    (hkey : ∀ fuel, 0 < fuel → readKey? fuel (c :: text) = some (⟨[], key⟩, '=' :: more))
    (hread : readValue? fuel depth (dropBlanks more) = some (value, after ++ mark :: rest))
    (h' : Gap after) (hnew : key ∉ found.map Prod.fst) :
    (mark = ',' → readEntries? (fuel + 1) depth found (before ++ c :: text) =
      readEntries? fuel depth (found ++ [(key, value)]) rest) ∧
    (mark = '}' → readEntries? (fuel + 1) depth found (before ++ c :: text) =
      some (found ++ [(key, value)], rest)) := by
  have hskip : skipLines? (before ++ c :: text).length (before ++ c :: text) = some (c :: text) :=
    skipLines?_gap h hc.solid (by simp)
  have hkey := hkey (c :: text).length (Nat.succ_pos _)
  have hinline : Origin.inline ≠ .dotted := by decide
  rw [readEntries?, hskip, Option.bind_eq_bind, Option.bind_some]
  split
  next heq => exact absurd (List.cons.inj heq).1 (hc.ne (by decide))
  next =>
    constructor <;> rintro rfl
    · simp only [Option.bind_eq_bind, Option.bind_some, hkey, hread,
        assign?_of_new hinline hnew, skipLines?_mark h' (Or.inl rfl)]
    · simp only [Option.bind_eq_bind, Option.bind_some, hkey, hread,
        assign?_of_new hinline hnew, skipLines?_mark h' (Or.inr (Or.inr rfl))]
      rfl

end

/-! ### Values are read back -/

section

variable {depth : Nat} {part : Part} {value : Value} {key : String} {text : List Char}

lemma isDigit_front {n : Nat} : ∃ c more, Nat.toDigits 10 n = c :: more ∧ c.isDigit = true := by
  obtain ⟨c, more, heq⟩ := List.exists_cons_of_ne_nil (Nat.toDigits_ne_nil (n := n) (b := 10))
  exact ⟨c, more, heq, isDigit_toDigits (heq ▸ List.mem_cons_self)⟩

lemma not_isScalarEnd_of_isDigit {c : Char} (h : c.isDigit = true) : isScalarEnd c = false := by
  cases hend : isScalarEnd c with
  | false => rfl
  | true => exact Bool.noConfusion ((not_isDigit_of_isScalarEnd hend).symm.trans h)

/-- A value begins with something that ends no value before it. -/
lemma Spells.front (h : Spells depth (.value value) text) :
    ∃ c more, text = c :: more ∧ isScalarEnd c = false := by
  cases h with
  | string quoted =>
    obtain ⟨quote, line, hquote, rfl⟩ := quoted.head?
    exact ⟨quote, line, rfl, by rcases hquote with rfl | rfl <;> decide⟩
  | number bound =>
    obtain ⟨c, more, heq, hc⟩ := isDigit_front
    exact ⟨c, more, heq, not_isScalarEnd_of_isDigit hc⟩
  | flag b => cases b <;> exact ⟨_, _, rfl, by decide⟩
  | word reads plain first => exact ⟨_, _, rfl, plain _ List.mem_cons_self⟩
  | array | table => exact ⟨_, _, rfl, by decide⟩

/-- A part is read back from its text, whatever may follow it. -/
def Part.ReadBack (depth : Nat) (text : List Char) : Part → Prop
  | .value value => ∀ fuel rest, text.length ≤ fuel → Follows rest →
      readValue? fuel depth (text ++ rest) = some (value, rest)
  | .entry key value => ∀ rest, Follows rest → ∃ more,
      (∀ fuel, 0 < fuel → readKey? fuel (text ++ rest) = some (⟨[], key⟩, '=' :: more)) ∧
      more.length < text.length + rest.length ∧
      ∀ fuel, more.length ≤ fuel + rest.length →
        readValue? fuel depth (dropBlanks more) = some (value, rest)
  | .items values => ∀ fuel rest, text.length ≤ fuel →
      readItems? fuel depth (text ++ rest) = some (values, rest)
  | .entries more => ∀ fuel found rest, text.length ≤ fuel →
      ((found ++ more).map Prod.fst).Nodup →
      readEntries? fuel depth found (text ++ rest) = some (found ++ more, rest)

/-- The text of an entry begins with its key. -/
lemma Spells.entry_front (h : Spells depth (.entry key value) text) :
    ∃ c more, text = c :: more ∧ BeginsKey c := by
  cases h with
  | entry key_text =>
    obtain ⟨c, more, rfl, hc⟩ := key_text.front
    exact ⟨c, _, rfl, hc⟩

lemma readBack_word {c : Char} {word : List Char} (hread : readScalar? (c :: word) = some value)
    (hword : ∀ d ∈ c :: word, isScalarEnd d = false) (hc : c ∉ ['[', '{', '"', '\'']) :
    (Part.value value).ReadBack depth (c :: word) := by
  rintro fuel rest hfuel hrest
  obtain ⟨fuel, rfl⟩ := Nat.exists_eq_add_one.mpr (Nat.lt_of_lt_of_le (Nat.succ_pos _) hfuel)
  exact readValue?_word hc (takeScalar_append hword hrest) hread

lemma readBack_entry {name before after : List Char} (hname : KeyText key name)
    (hbefore : Blanks before) (hafter : Blanks after) (h : Spells depth (.value value) text)
    (hread : (Part.value value).ReadBack depth text) :
    (Part.entry key value).ReadBack depth (name ++ (before ++ '=' :: (after ++ text))) := by
  intro rest hrest
  obtain ⟨c, more, rfl, hc⟩ := h.front
  have hfront : dropBlanks (after ++ (c :: more ++ rest)) = c :: more ++ rest := by
    rw [dropBlanks_append hafter]
    exact (solid_of_not_isScalarEnd hc).dropBlanks
  refine ⟨after ++ (c :: more ++ rest), fun fuel hfuel => ?_, ?_, fun fuel hfuel => ?_⟩
  · have hkey : readKey? fuel ([] ++ (name ++ (before ++ '=' :: (after ++ (c :: more ++ rest))))) =
        some (⟨[], key⟩, '=' :: (after ++ (c :: more ++ rest))) :=
      hname.readKey? (by simp [Blanks]) hbefore (by decide) (by decide) (by decide) hfuel
    simpa using hkey
  · simp only [List.length_append, List.length_cons]
    omega
  · rw [hfront]
    refine hread fuel rest ?_ hrest
    simp only [List.length_append] at hfuel
    omega

section

variable {before after more : List Char}

lemma readBack_lastItem (gap : Gap before) (h : Spells depth (.value value) text)
    (hread : (Part.value value).ReadBack depth text) (gap' : Gap after) :
    (Part.items [value]).ReadBack depth (before ++ (text ++ (after ++ [']']))) := by
  rintro fuel rest hfuel
  simp only [List.length_append, List.length_cons] at hfuel
  obtain ⟨fuel, rfl⟩ := Nat.exists_eq_add_one.mpr (show 0 < fuel by omega)
  have hvalue := hread fuel (after ++ ']' :: rest) (by omega) (gap'.follows (by decide) (by decide))
  obtain ⟨c, front, rfl, hc⟩ := h.front
  simp only [List.append_assoc]
  exact (readItems?_item gap hc hvalue gap').2 rfl

lemma readBack_item {items : List Value} (gap : Gap before) (h : Spells depth (.value value) text)
    (hread : (Part.value value).ReadBack depth text) (gap' : Gap after)
    (hmore : (Part.items items).ReadBack depth more) :
    (Part.items (value :: items)).ReadBack depth
      (before ++ (text ++ (after ++ ',' :: more))) := by
  rintro fuel rest hfuel
  simp only [List.length_append, List.length_cons] at hfuel
  obtain ⟨fuel, rfl⟩ := Nat.exists_eq_add_one.mpr (show 0 < fuel by omega)
  have hvalue := hread fuel (after ++ ',' :: (more ++ rest)) (by omega)
    (gap'.follows (by decide) (by decide))
  obtain ⟨c, front, rfl, hc⟩ := h.front
  simp only [List.append_assoc]
  refine ((readItems?_item gap hc hvalue gap').1 rfl).trans ?_
  rw [hmore fuel rest (by omega)]
  rfl

lemma not_mem_of_nodup {found entries : Entries}
    (h : ((found ++ (key, value) :: entries).map Prod.fst).Nodup) : key ∉ found.map Prod.fst := by
  rw [List.map_append, List.map_cons] at h
  exact fun hmem => List.disjoint_of_nodup_append h hmem List.mem_cons_self

lemma readBack_lastEntry (gap : Gap before) (h : Spells depth (.entry key value) text)
    (hread : (Part.entry key value).ReadBack depth text) (gap' : Gap after) :
    (Part.entries [(key, value)]).ReadBack depth (before ++ (text ++ (after ++ ['}']))) := by
  rintro fuel found rest hfuel hkeys
  simp only [List.length_append, List.length_cons] at hfuel
  obtain ⟨fuel, rfl⟩ := Nat.exists_eq_add_one.mpr (show 0 < fuel by omega)
  obtain ⟨left, hkey, hlength, hvalue⟩ := hread (after ++ '}' :: rest)
    (gap'.follows (by decide) (by decide))
  obtain ⟨c, front, rfl, hc⟩ := h.entry_front
  simp only [List.append_assoc]
  exact (readEntries?_entry gap hc hkey (hvalue fuel (by omega)) gap'
    (not_mem_of_nodup hkeys)).2 rfl

lemma readBack_moreEntries {entries : Entries} (gap : Gap before)
    (h : Spells depth (.entry key value) text)
    (hread : (Part.entry key value).ReadBack depth text) (gap' : Gap after)
    (hmore : (Part.entries entries).ReadBack depth more) :
    (Part.entries ((key, value) :: entries)).ReadBack depth
      (before ++ (text ++ (after ++ ',' :: more))) := by
  rintro fuel found rest hfuel hkeys
  simp only [List.length_append, List.length_cons] at hfuel
  obtain ⟨fuel, rfl⟩ := Nat.exists_eq_add_one.mpr (show 0 < fuel by omega)
  obtain ⟨left, hkey, hlength, hvalue⟩ := hread (after ++ ',' :: (more ++ rest))
    (gap'.follows (by decide) (by decide))
  obtain ⟨c, front, rfl, hc⟩ := h.entry_front
  have hsplit : found ++ (key, value) :: entries = found ++ [(key, value)] ++ entries := by simp
  simp only [List.append_assoc]
  refine ((readEntries?_entry gap hc hkey (hvalue fuel (by omega)) gap'
    (not_mem_of_nodup hkeys)).1 rfl).trans ?_
  rw [hsplit] at hkeys ⊢
  exact hmore fuel _ rest (by omega) hkeys

end

/-- **A part is read back from its text.** By induction on how it is spelled, one round of the
reader for each item or entry. The text is fuel enough, since each round leaves a part of it that
is shorter. -/
theorem Spells.readBack (h : Spells depth part text) : part.ReadBack depth text := by
  induction h with
  | string quoted =>
    rintro fuel rest hfuel hrest
    obtain ⟨quote, line, hquote, rfl⟩ := quoted.head?
    obtain ⟨fuel, rfl⟩ := Nat.exists_eq_add_one.mpr (Nat.lt_of_lt_of_le (Nat.succ_pos _) hfuel)
    exact readValue?_quoted hquote
      (quoted.readString? fun c hc => ne_quote_of_isScalarEnd (hrest.head? c hc))
  | @number depth n bound =>
    obtain ⟨c, more, heq, hc⟩ := isDigit_front (n := n)
    have hword : ∀ d ∈ c :: more, isScalarEnd d = false := fun d hd =>
      not_isScalarEnd_of_isDigit (isDigit_toDigits (heq ▸ hd))
    have hread := heq ▸ readScalar?_toDigits bound
    rw [heq]
    refine readBack_word hread hword fun hmem => ?_
    simp only [List.mem_cons, List.not_mem_nil, or_false] at hmem
    rcases hmem with rfl | rfl | rfl | rfl <;> exact absurd hc (by decide)
  | flag b =>
    have hfalse : ∀ d ∈ ['f', 'a', 'l', 's', 'e'], isScalarEnd d = false := by
      simp [isScalarEnd, isBlank]
    have htrue : ∀ d ∈ ['t', 'r', 'u', 'e'], isScalarEnd d = false := by
      simp [isScalarEnd, isBlank]
    cases b with
    | false => exact readBack_word rfl hfalse (by decide)
    | true => exact readBack_word rfl htrue (by decide)
  | word reads plain first => exact readBack_word reads plain first
  | array shallow _ ih =>
    rintro fuel rest hfuel -
    rw [List.length_cons] at hfuel
    obtain ⟨fuel, rfl⟩ := Nat.exists_eq_add_one.mpr (show 0 < fuel by omega)
    have hitems := ih fuel rest (by omega)
    simp [readValue?, shallow, hitems]
  | table shallow keys _ ih =>
    rintro fuel rest hfuel -
    rw [List.length_cons] at hfuel
    obtain ⟨fuel, rfl⟩ := Nat.exists_eq_add_one.mpr (show 0 < fuel by omega)
    have hentries := ih fuel [] rest (by omega) keys
    simp [readValue?, shallow, hentries]
  | entry key_text blanks blanks' spells ih =>
    exact readBack_entry key_text blanks blanks' spells ih
  | noItems gap =>
    rintro fuel rest hfuel
    simp only [List.length_append, List.length_cons] at hfuel
    obtain ⟨fuel, rfl⟩ := Nat.exists_eq_add_one.mpr (show 0 < fuel by omega)
    rw [List.append_assoc]
    exact readItems?_close gap
  | lastItem gap spells gap' ih => exact readBack_lastItem gap spells ih gap'
  | item gap spells gap' _ ih ihMore => exact readBack_item gap spells ih gap' ihMore
  | noEntries gap =>
    rintro fuel found rest hfuel -
    simp only [List.length_append, List.length_cons] at hfuel
    obtain ⟨fuel, rfl⟩ := Nat.exists_eq_add_one.mpr (show 0 < fuel by omega)
    rw [List.append_assoc, List.append_nil]
    exact readEntries?_close gap
  | lastEntry gap spells gap' ih => exact readBack_lastEntry gap spells ih gap'
  | moreEntries gap spells gap' _ ih ihMore => exact readBack_moreEntries gap spells ih gap' ihMore

/-! ### What can be written -/

lemma exists_spells_entry (key : String) (h : ∃ text, Spells depth (.value value) text) :
    ∃ text, Spells depth (.entry key value) text := by
  obtain ⟨text, htext⟩ := h
  obtain ⟨name, hname⟩ := exists_quoted key
  have hnone : Blanks [] := by simp [Blanks]
  exact ⟨_, .entry (.quoted hname) hnone hnone htext⟩

/-- The entries of a table can be written if their values can. -/
lemma exists_spells_entries {entries : Entries}
    (h : ∀ entry ∈ entries, ∃ text, Spells depth (.value entry.2) text) :
    ∃ text, Spells depth (.entries entries) text := by
  induction entries with
  | nil => exact ⟨_, .noEntries .nil⟩
  | cons entry entries ih =>
    obtain ⟨hentry, hmore⟩ := List.forall_mem_cons.mp h
    obtain ⟨text, htext⟩ := exists_spells_entry entry.1 hentry
    obtain ⟨more, hmore⟩ := ih hmore
    exact ⟨_, .moreEntries .nil htext .nil hmore⟩

/-- The items of an array can be written if each of them can. -/
lemma exists_spells_items {items : List Value}
    (h : ∀ item ∈ items, ∃ text, Spells depth (.value item) text) :
    ∃ text, Spells depth (.items items) text := by
  induction items with
  | nil => exact ⟨_, .noItems .nil⟩
  | cons item items ih =>
    obtain ⟨⟨text, htext⟩, hmore⟩ := List.forall_mem_cons.mp h
    obtain ⟨more, hmore⟩ := ih hmore
    exact ⟨_, .item .nil htext .nil hmore⟩

end

end StablePath.Toml
