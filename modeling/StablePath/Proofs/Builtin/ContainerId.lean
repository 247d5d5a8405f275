import Mathlib.Algebra.GroupWithZero.Nat
import StablePath.Proofs.Pattern.Hit
import StablePath.Rule.Gate

/-!
Matches of container ids.

The four formats are tried from left to right. A run of hexadecimal digits that nothing like a
container id follows matches whole, or up to its first 64 digits.
-/

namespace StablePath.Builtin

open Pattern Text

def isHex (c : Char) : Bool :=
  c.isDigit || ('a' ≤ c && c ≤ 'f') || ('A' ≤ c && c ≤ 'F')

/-- Groups of so many hexadecimal digits, with hyphens between them. -/
def HexGroups : List Nat → List Char → Prop
  | [], w => w = []
  | [n], w => w.length = n ∧ ∀ c ∈ w, isHex c = true
  | n :: ns, w => ∃ a b, w = a ++ '-' :: b ∧ (a.length = n ∧ ∀ c ∈ a, isHex c = true) ∧ HexGroups ns b

/-- The groups of a container id with hyphens. -/
def idGroups : List Nat := [8, 4, 4, 4, 4]

/-- What is enough for a container id. -/
def IsCore (w : List Char) : Prop := HexGroups [28] w ∨ HexGroups idGroups w

/-- What a match of a container id is made of: all of the match is written over. -/
structure IsContainerId (hit : Hit) : Prop where
  lead : hit.lead = []
  tail : hit.tail = []
  chars : ∀ c ∈ hit.span, isHexOrHyphen c = true
  core : ∃ w, w <+: hit.span ∧ IsCore w
  run : ∀ digits more, hit.text = digits ++ more → (∀ c ∈ digits, isHex c = true) →
    28 ≤ digits.length → (∀ c ∈ more.head?, isHexOrHyphen c = false) → hit.span = digits.take 64

/-- A text in which a container id is matched has enough for one. -/
lemma IsContainerId.exists_core {hit : Hit} (h : IsContainerId hit) {text : List Char}
    (hsuffix : hit.text <:+ text) : ∃ w, IsCore w ∧ w <:+: text := by
  obtain ⟨w, hw, hcore⟩ := h.core
  refine ⟨w, hcore, hw.isInfix.trans (List.IsInfix.trans ?_ hsuffix.isInfix)⟩
  exact ⟨hit.lead, hit.tail ++ hit.rest, by simp [Hit.text, Hit.taken]⟩

/-- No container id starts a text. -/
def NoContainerId (text : List Char) : Prop := ∀ w, w <+: text → ¬ IsCore w

/-! ### The term -/

def digitSet : CharSet := ⟨[(0x30, 0x39)]⟩
def hexSet : CharSet := ⟨[(0x30, 0x39), (0x41, 0x46), (0x61, 0x66)]⟩

def containerIdTerm : Term :=
  .alt (.times 64 (some 64) true (.oneOf hexSet)) <|
  .alt (.concat ([.times 32 (some 32) true (.oneOf hexSet), .oneOf (.single '-')] ++
    [.times 1 none true (.oneOf digitSet)])) <|
  .alt (.concat [.times 8 (some 8) true (.oneOf hexSet),
    .times 4 (some 4) true (.concat [.oneOf (.single '-'), .times 4 (some 4) true (.oneOf hexSet)])]) <|
  .times 28 none true (.oneOf hexSet)

lemma isDigit_iff {c : Char} : c.isDigit = true ↔ 48 ≤ c.toNat ∧ c.toNat ≤ 57 := by
  simp only [Char.isDigit, Bool.and_eq_true, decide_eq_true_eq]
  rfl

lemma isHex_iff {c : Char} : isHex c = true ↔
    (48 ≤ c.toNat ∧ c.toNat ≤ 57) ∨ (97 ≤ c.toNat ∧ c.toNat ≤ 102) ∨
      (65 ≤ c.toNat ∧ c.toNat ≤ 70) := by
  simp only [isHex, Bool.or_eq_true, Bool.and_eq_true, decide_eq_true_eq, isDigit_iff, or_assoc]
  rfl

lemma contains_hexSet (c : Char) : hexSet.contains c.toNat = isHex c := by
  rw [Bool.eq_iff_iff, isHex_iff]
  simp only [hexSet, CharSet.contains, List.any_cons, List.any_nil, Bool.or_eq_true,
    Bool.and_eq_true, decide_eq_true_eq, Bool.false_eq_true, or_false]
  tauto

lemma contains_digitSet (c : Char) : digitSet.contains c.toNat = c.isDigit := by
  rw [Bool.eq_iff_iff, isDigit_iff]
  simp [digitSet, CharSet.contains]

lemma powers_singleton (w : List CharSet) (n : Nat) :
    powers [w] n = [(List.replicate n w).flatten] := by
  induction n with
  | zero => rfl
  | succ n ih => simp [powers, products, ih, List.replicate_succ]

lemma words?_times (n : Nat) (s : CharSet) :
    (Term.times n (some n) true (.oneOf s)).words? = some [List.replicate n s] := by
  simp [Term.words?, powers_singleton, List.flatten_replicate_singleton]

def hyphenWord : List CharSet := exactly ['-']

/-- The word of 32 digits and a hyphen. -/
def numberedWord : List CharSet := List.replicate 32 hexSet ++ hyphenWord

/-- The word of groups of digits with hyphens between them. -/
def groupsWord : List Nat → List CharSet
  | [] => []
  | [n] => List.replicate n hexSet
  | n :: ns => List.replicate n hexSet ++ (hyphenWord ++ groupsWord ns)

lemma words?_numbered :
    (Term.concat [.times 32 (some 32) true (.oneOf hexSet), .oneOf (.single '-')]).words? =
      some [numberedWord] := by
  simp [Term.concat, Term.words?, powers_singleton, products, numberedWord, hyphenWord, exactly]

lemma words?_groups :
    (Term.concat [.times 8 (some 8) true (.oneOf hexSet), .times 4 (some 4) true
      (.concat [.oneOf (.single '-'), .times 4 (some 4) true (.oneOf hexSet)])]).words? =
        some [groupsWord idGroups] := by
  simp [Term.concat, Term.words?, powers_singleton, products, groupsWord, idGroups, hyphenWord,
    exactly]

/-- The end of a match in which no group is seen but the whole. -/
def closeWhole (start : Nat) (p : Place) : Option Trail := some [.closed 0 p.offset, .opened 0 start]

lemma matchAt?_containerId (p : Place) :
    containerIdTerm.matchAt? p.before p.offset p.text =
      ((p.read (List.replicate 64 hexSet)).bind (closeWhole p.offset) <|>
        ((p.read numberedWord).bind (fun q => q.times 1 digitSet (closeWhole p.offset)) <|>
          ((p.read (groupsWord idGroups)).bind (closeWhole p.offset) <|>
            p.times 28 hexSet (closeWhole p.offset)))) := by
  have hclose : Thread.firstAt? ⟨[.close 0], [.opened 0 p.offset]⟩ = closeWhole p.offset := by
    funext q
    rw [Thread.firstAt?_close, Thread.firstAt?_nil]
    rfl
  rw [Term.matchAt?_eq_first?]
  refine (Thread.firstAt?_group (p := p) 0 _).trans ?_
  rw [containerIdTerm, Thread.firstAt?_alt, Thread.firstAt?_alt, Thread.firstAt?_alt,
    Thread.firstAt?_words (words?_times 64 hexSet) (Still.nil.close 0),
    Thread.firstAt?_concat words?_numbered (by simp) (Still.nil.close 0),
    Thread.firstAt?_words words?_groups (Still.nil.close 0),
    Thread.firstAt?_times (Still.nil.close 0), hclose]
  have hnumbered : Thread.firstAt? ⟨[.run (.concat [.times 1 none true (.oneOf digitSet)]), .close 0],
      [.opened 0 p.offset]⟩ = fun q => q.times 1 digitSet (closeWhole p.offset) := by
    funext q
    rw [Term.concat, Thread.firstAt?_times (Still.nil.close 0), hclose]
  rw [hnumbered]
  simp

/-! ### The formats -/

lemma isHexOrHyphen_iff {c : Char} : isHexOrHyphen c = true ↔ isHex c = true ∨ c = '-' := by
  simp [isHexOrHyphen, isHex]

lemma not_isHex_hyphen : isHex '-' = false := by decide

lemma spells_hex {n : Nat} {w : List Char} :
    Spells (List.replicate n hexSet) w ↔ w.length = n ∧ ∀ c ∈ w, isHex c = true := by
  simp only [spells_replicate, contains_hexSet]

lemma spells_groupsWord {ns : List Nat} {w : List Char} :
    Spells (groupsWord ns) w ↔ HexGroups ns w := by
  fun_induction HexGroups ns w with
  | case1 w => exact List.forall₂_nil_left_iff
  | case2 n w => exact spells_hex
  | case3 n ns w hne ih =>
    have hword : groupsWord (n :: ns) =
        List.replicate n hexSet ++ (hyphenWord ++ groupsWord ns) := by
      cases ns with
      | nil => exact absurd rfl hne
      | cons m ns => rfl
    rw [hword, spells_append]
    constructor
    · rintro ⟨a, more, rfl, ha, hmore⟩
      obtain ⟨hyphen, b, rfl, hhyphen, hb⟩ := spells_append.mp hmore
      obtain rfl := spells_exactly.mp hhyphen
      exact ⟨a, b, rfl, spells_hex.mp ha, (ih b).mp hb⟩
    · rintro ⟨a, b, rfl, ha, hb⟩
      exact ⟨a, '-' :: b, rfl, spells_hex.mpr ha,
        spells_append.mpr ⟨['-'], b, rfl, spells_exactly.mpr rfl, (ih b).mpr hb⟩⟩

lemma HexGroups.chars {ns : List Nat} {w : List Char} (h : HexGroups ns w) :
    ∀ c ∈ w, isHexOrHyphen c = true := by
  fun_induction HexGroups ns w with
  | case1 w =>
    obtain rfl := h
    simp
  | case2 n w => exact fun c hc => isHexOrHyphen_iff.mpr (Or.inl (h.2 c hc))
  | case3 n ns w hne ih =>
    obtain ⟨a, b, rfl, ha, hb⟩ := h
    intro c hc
    rcases List.mem_append.mp hc with hc | hc
    · exact isHexOrHyphen_iff.mpr (Or.inl (ha.2 c hc))
    · rcases List.mem_cons.mp hc with rfl | hc
      · exact isHexOrHyphen_iff.mpr (Or.inr rfl)
      · exact ih b hb c hc

lemma HexGroups.length_eq {ns : List Nat} {w : List Char} (h : HexGroups ns w) :
    w.length = ns.sum + (ns.length - 1) := by
  fun_induction HexGroups ns w with
  | case1 w =>
    obtain rfl := h
    rfl
  | case2 n w => simp [h.1]
  | case3 n ns w hne ih =>
    obtain ⟨a, b, rfl, ha, hb⟩ := h
    have hpos : 0 < ns.length := List.length_pos_iff.mpr hne
    simp only [List.length_append, List.length_cons, ha.1, ih b hb, List.sum_cons]
    omega

lemma HexGroups.hyphen_mem {n m : Nat} {ns : List Nat} {w : List Char}
    (h : HexGroups (n :: m :: ns) w) : '-' ∈ w := by
  obtain ⟨a, b, rfl, -, -⟩ := h
  simp

lemma IsCore.chars {w : List Char} (h : IsCore w) : ∀ c ∈ w, isHexOrHyphen c = true := by
  rcases h with h | h
  · exact h.chars
  · exact h.chars

lemma IsCore.length_eq {w : List Char} (h : IsCore w) : w.length = 28 := by
  rcases h with h | h
  · exact h.length_eq
  · exact h.length_eq

lemma IsCore.ne_star {w : List Char} (h : IsCore w) : w ≠ [] ∧ '*' ∉ w := by
  refine ⟨?_, fun hstar => ?_⟩
  · rintro rfl
    cases h.length_eq
  · have hchar := h.chars '*' hstar
    revert hchar
    decide

/-- A text of digits and hyphens does not reach over the end of a run that none of them follows. -/
lemma prefix_of_run {used rest digits more : List Char} (h : used ++ rest = digits ++ more)
    (hused : ∀ c ∈ used, isHexOrHyphen c = true)
    (hmore : ∀ c ∈ more.head?, isHexOrHyphen c = false) : used <+: digits := by
  rcases List.append_eq_append_iff.mp h with ⟨extra, hdigits, -⟩ | ⟨extra, hextra, hmore'⟩
  · exact ⟨extra, hdigits.symm⟩
  · cases extra with
    | nil => exact ⟨[], by simpa using hextra⟩
    | cons c extra =>
      have hc := hmore c (by simp [hmore'])
      rw [hused c (by simp [hextra])] at hc
      cases hc

/-! ### How far an id reaches -/

/-- Whether a text begins with groups of so many hexadecimal digits, with hyphens between them. -/
def startsWithGroups : List Nat → List Char → Bool
  | [], _ => true
  | [n], text => n ≤ runLength isHex text
  | n :: ns, text =>
    n ≤ runLength isHex text && (text[n]? == some '-' && startsWithGroups ns (text.drop (n + 1)))

/-- How many characters the container id has that a text begins with. Of the four formats the first
one counts that the text begins with. -/
def idLength? (text : List Char) : Option Nat :=
  let digits := runLength isHex text
  let number := runLength Char.isDigit (text.drop 33)
  if 64 ≤ digits then some 64
  else if 32 ≤ digits ∧ text[32]? = some '-' ∧ 1 ≤ number then some (33 + number)
  else if startsWithGroups idGroups text then some 28
  else if 28 ≤ digits then some digits
  else none

lemma le_runLength_isHex_iff {n : Nat} {text : List Char} :
    n ≤ runLength isHex text ↔ ∃ w, w <+: text ∧ w.length = n ∧ ∀ c ∈ w, isHex c = true := by
  rw [le_runLength_iff]
  constructor
  · exact fun h => ⟨_, List.take_prefix n text, List.length_take_of_le h.1, h.2⟩
  · rintro ⟨w, hw, rfl, hall⟩
    exact ⟨hw.length_le, List.prefix_iff_eq_take.mp hw ▸ hall⟩

lemma startsWithGroups_iff {ns : List Nat} {text : List Char} :
    startsWithGroups ns text = true ↔ ∃ w, w <+: text ∧ HexGroups ns w := by
  fun_induction startsWithGroups ns text with
  | case1 text => exact iff_of_true rfl ⟨[], List.nil_prefix, rfl⟩
  | case2 text n => exact decide_eq_true_iff.trans le_runLength_isHex_iff
  | case3 n ns text hne ih =>
    have hcons : ∀ w, HexGroups (n :: ns) w ↔ ∃ a b, w = a ++ '-' :: b ∧
        (a.length = n ∧ ∀ c ∈ a, isHex c = true) ∧ HexGroups ns b := by
      intro w
      cases ns with
      | nil => exact absurd rfl hne
      | cons m ns => rfl
    simp only [hcons, Bool.and_eq_true, decide_eq_true_eq, beq_iff_eq, ih, le_runLength_isHex_iff]
    constructor
    · rintro ⟨⟨a, ⟨rest, rfl⟩, rfl, ha⟩, hhyphen, b, ⟨more, hb⟩, hgroups⟩
      rw [List.getElem?_append_right (Nat.le_refl _), Nat.sub_self,
        ← List.head?_eq_getElem?] at hhyphen
      obtain ⟨rest, rfl⟩ := List.head?_eq_some_iff.mp hhyphen
      refine ⟨a ++ '-' :: b, ⟨more, ?_⟩, a, b, rfl, ⟨rfl, ha⟩, hgroups⟩
      simpa using hb
    · rintro ⟨_, ⟨more, rfl⟩, a, b, rfl, ⟨rfl, ha⟩, hgroups⟩
      exact ⟨⟨a, ⟨'-' :: b ++ more, by simp⟩, rfl, ha⟩, by simp, b, ⟨more, by simp⟩, hgroups⟩

section

variable {rest : List Char} (hrest : ∀ c ∈ rest.head?, isHexOrHyphen c = false)

include hrest

lemma runLength_isHex_append (text : List Char) :
    runLength isHex (text ++ rest) = runLength isHex text := by
  refine runLength_append (fun c hc => ?_) text
  refine Bool.eq_false_iff.mpr fun h => Bool.eq_false_iff.mp (hrest c hc) ?_
  exact isHexOrHyphen_iff.mpr (Or.inl h)

lemma startsWithGroups_append (ns : List Nat) (text : List Char) :
    startsWithGroups ns (text ++ rest) = startsWithGroups ns text := by
  rw [Bool.eq_iff_iff, startsWithGroups_iff, startsWithGroups_iff]
  constructor
  · rintro ⟨w, ⟨more, hw⟩, hgroups⟩
    exact ⟨w, prefix_of_run hw hgroups.chars hrest, hgroups⟩
  · rintro ⟨w, hw, hgroups⟩
    exact ⟨w, hw.trans (List.prefix_append _ _), hgroups⟩

/-- An id does not reach over the end of a run of digits and hyphens. -/
lemma idLength?_append (text : List Char) : idLength? (text ++ rest) = idLength? text := by
  have hhyphen : 32 ≤ runLength isHex text →
      ((text ++ rest)[32]? = some '-' ↔ text[32]? = some '-') := by
    intro hdigits
    have hlen := (le_runLength_iff.mp hdigits).1
    by_cases hlt : 32 < text.length
    · rw [List.getElem?_append_left hlt]
    · refine iff_of_false (fun h => ?_) (by simp [List.getElem?_eq_none (Nat.le_of_not_lt hlt)])
      rw [List.getElem?_append_right (Nat.le_of_not_lt hlt), show 32 - text.length = 0 by omega,
        ← List.head?_eq_getElem?] at h
      have hchar := hrest '-' h
      revert hchar
      decide
  have hnumber : text[32]? = some '-' →
      runLength Char.isDigit ((text ++ rest).drop 33) = runLength Char.isDigit (text.drop 33) := by
    intro h
    have hlt := (List.getElem?_eq_some_iff.mp h).1
    rw [List.drop_append_of_le_length hlt]
    refine runLength_append (fun c hc => Bool.eq_false_iff.mpr fun hdigit => ?_) _
    exact Bool.eq_false_iff.mp (hrest c hc) (by simp [isHexOrHyphen, hdigit])
  unfold idLength?
  dsimp only
  rw [runLength_isHex_append hrest, startsWithGroups_append hrest]
  -- only the format with a hyphen looks behind the digits
  by_cases hdigits : 32 ≤ runLength isHex text ∧ text[32]? = some '-'
  · simp only [hnumber hdigits.2, hhyphen hdigits.1]
  · have hno : ¬ (32 ≤ runLength isHex text ∧ text[32]? = some '-' ∧
        1 ≤ runLength Char.isDigit (text.drop 33)) := fun h => hdigits ⟨h.1, h.2.1⟩
    have hno' : ¬ (32 ≤ runLength isHex text ∧ (text ++ rest)[32]? = some '-' ∧
        1 ≤ runLength Char.isDigit ((text ++ rest).drop 33)) :=
      fun h => hdigits ⟨h.1, (hhyphen h.1).mp h.2.1⟩
    simp only [if_neg hno, if_neg hno']

end

/-! ### The matches -/

lemma read_hyphen (p : Place) :
    p.read hyphenWord = if p.text.head? = some '-' then some (p.skip 1) else none := by
  have hone : ∀ c : Char, (CharSet.single '-').contains c.toNat = (c == '-') := fun c => by
    rw [Bool.eq_iff_iff, contains_single, beq_iff_eq]
  rw [show hyphenWord = List.replicate 1 (CharSet.single '-') from rfl, Place.read_replicate hone]
  congr 1
  cases p.text with
  | nil => simp [runLength]
  | cons c text =>
    simp [runLength, List.takeWhile_cons, Nat.one_le_iff_ne_zero, apply_ite List.length]

lemma read_groups (ns : List Nat) (p : Place) : p.read (groupsWord ns) =
    if startsWithGroups ns p.text then some (p.skip (ns.sum + (ns.length - 1))) else none := by
  split_ifs with h
  · obtain ⟨w, ⟨rest, htext⟩, hw⟩ := startsWithGroups_iff.mp h
    rw [← hw.length_eq, Place.skip_of_append htext.symm]
    exact Place.read_eq_some_iff.mpr ⟨w, rest, htext.symm, spells_groupsWord.mpr hw, rfl⟩
  · rw [Option.eq_none_iff_forall_ne_some]
    intro q hread
    obtain ⟨w, rest, htext, hw, -⟩ := Place.read_eq_some_iff.mp hread
    exact h (startsWithGroups_iff.mpr ⟨w, ⟨rest, htext.symm⟩, spells_groupsWord.mp hw⟩)

lemma read_numbered (start : Nat) (p : Place) :
    (p.read numberedWord).bind (fun q => q.times 1 digitSet (closeWhole start)) =
      if 32 ≤ runLength isHex p.text ∧ p.text[32]? = some '-' ∧
          1 ≤ runLength Char.isDigit (p.text.drop 33) then
        closeWhole start (p.skip (33 + runLength Char.isDigit (p.text.drop 33))) else none := by
  rw [numberedWord, Place.read_append, Place.read_replicate contains_hexSet]
  by_cases hdigits : 32 ≤ runLength isHex p.text
  · rw [if_pos hdigits, Option.bind_some, read_hyphen, Place.text_skip, List.head?_drop]
    by_cases hhyphen : p.text[32]? = some '-'
    · rw [if_pos hhyphen, Option.bind_some, Place.skip_skip,
        Place.times_eq_skip contains_digitSet (fun q => rfl), Place.text_skip, Place.skip_skip]
      simp [hdigits, hhyphen]
    · simp [hhyphen]
  · simp [hdigits]

/-- **What container ids match**: as many characters as the first format has that fits. -/
theorem matchAt?_eq_idLength? (p : Place) :
    containerIdTerm.matchAt? p.before p.offset p.text =
      (idLength? p.text).bind fun n => closeWhole p.offset (p.skip n) := by
  rw [matchAt?_containerId, Place.read_replicate contains_hexSet, read_numbered, read_groups,
    Place.times_eq_skip contains_hexSet fun q => rfl]
  unfold idLength?
  dsimp only
  split_ifs <;> rfl

/-- A match of as many characters as the container id has that starts there. -/
structure IsId (hit : Hit) : Prop where
  lead : hit.lead = []
  tail : hit.tail = []
  length : idLength? hit.text = some hit.span.length

/-- A text that begins with no container id. -/
def NoId (text : List Char) : Prop := idLength? text = none

lemma idLength?_eq_some {text : List Char} {n : Nat} (h : idLength? text = some n) :
    64 ≤ runLength isHex text ∧ n = 64 ∨
    32 ≤ runLength isHex text ∧ text[32]? = some '-' ∧
      n = 33 + runLength Char.isDigit (text.drop 33) ∨
    startsWithGroups idGroups text = true ∧ n = 28 ∨
    28 ≤ runLength isHex text ∧ runLength isHex text < 64 ∧ n = runLength isHex text := by
  unfold idLength? at h
  dsimp only at h
  split_ifs at h with hlong hnumbered hgroups hrun
  all_goals obtain rfl := Option.some.inj h
  · exact Or.inl ⟨hlong, rfl⟩
  · exact Or.inr (Or.inl ⟨hnumbered.1, hnumbered.2.1, rfl⟩)
  · exact Or.inr (Or.inr (Or.inl ⟨hgroups, rfl⟩))
  · exact Or.inr (Or.inr (Or.inr ⟨hrun, Nat.lt_of_not_le hlong, rfl⟩))

/-- What an id is made of, and what of it is enough for one. -/
lemma core_of_idLength? {text : List Char} {n : Nat} (h : idLength? text = some n) :
    n ≤ text.length ∧ (∀ c ∈ text.take n, isHexOrHyphen c = true) ∧
      ∃ w, w <+: text.take n ∧ IsCore w := by
  have hhex : ∀ m, m ≤ runLength isHex text →
      m ≤ text.length ∧ ∀ c ∈ text.take m, isHexOrHyphen c = true := by
    intro m hm
    obtain ⟨hlen, hall⟩ := le_runLength_iff.mp hm
    exact ⟨hlen, fun c hc => isHexOrHyphen_iff.mpr (Or.inl (hall c hc))⟩
  have hcore : 28 ≤ n → 28 ≤ runLength isHex text → ∃ w, w <+: text.take n ∧ IsCore w := by
    intro hn hdigits
    obtain ⟨hlen, hall⟩ := le_runLength_iff.mp hdigits
    refine ⟨text.take 28, ?_, Or.inl ⟨List.length_take_of_le hlen, hall⟩⟩
    exact List.take_prefix_take_left hn
  -- the formats in their order
  rcases idLength?_eq_some h with
    ⟨hlong, rfl⟩ | ⟨hdigits, hhyphen, rfl⟩ | ⟨hgroups, rfl⟩ | ⟨hrun, -, rfl⟩
  · obtain ⟨hlen, hall⟩ := hhex 64 hlong
    exact ⟨hlen, hall, hcore (by omega) (by omega)⟩
  · obtain ⟨hlt, hget⟩ := List.getElem?_eq_some_iff.mp hhyphen
    have hall := Nat.le_refl (runLength Char.isDigit (text.drop 33))
    obtain ⟨hlen, hnumber⟩ := le_runLength_iff.mp hall
    rw [List.length_drop] at hlen
    refine ⟨by omega, fun c hc => ?_, hcore (by omega) (by omega)⟩
    rw [List.take_add, show 33 = 32 + 1 from rfl, List.take_add_one, hhyphen] at hc
    rcases List.mem_append.mp hc with hc | hc
    · rcases List.mem_append.mp hc with hc | hc
      · exact (hhex 32 hdigits).2 c hc
      · exact isHexOrHyphen_iff.mpr (Or.inr (by simpa using hc))
    · exact isHexOrHyphen_iff.mpr (Or.inl (isHex_iff.mpr (Or.inl (isDigit_iff.mp (hnumber c hc)))))
  · obtain ⟨w, hw, hwgroups⟩ := startsWithGroups_iff.mp hgroups
    have hlen : w.length = 28 := hwgroups.length_eq
    have htake : w = text.take 28 := hlen ▸ List.prefix_iff_eq_take.mp hw
    exact ⟨hlen ▸ hw.length_le, htake ▸ hwgroups.chars, w, htake ▸ List.prefix_rfl, Or.inr hwgroups⟩
  · obtain ⟨hlen, hall⟩ := hhex _ (Nat.le_refl _)
    exact ⟨hlen, hall, hcore hrun hrun⟩

/-- Of digits alone there is an id of 64 digits, or one that takes them all. -/
lemma idLength?_of_hex {digits : List Char} (hdigits : ∀ c ∈ digits, isHex c = true) :
    idLength? digits = if 64 ≤ digits.length then some 64
      else if 28 ≤ digits.length then some digits.length else none := by
  have hhyphen : '-' ∉ digits := fun hmem => by
    have hhex := hdigits '-' hmem
    rw [not_isHex_hyphen] at hhex
    cases hhex
  have hat : digits[32]? ≠ some '-' := fun h => hhyphen (List.mem_of_getElem? h)
  have hgroups : startsWithGroups idGroups digits = false := by
    refine Bool.eq_false_iff.mpr fun h => ?_
    obtain ⟨w, hw, hwgroups⟩ := startsWithGroups_iff.mp h
    exact hhyphen (hw.subset hwgroups.hyphen_mem)
  unfold idLength?
  simp only [runLength_of_all hdigits, hat, hgroups, false_and, and_false, if_false,
    Bool.false_eq_true]

/-- A run of digits that nothing like an id follows is taken whole, or up to its first 64 digits. -/
lemma take_of_idLength? {digits more : List Char} {n : Nat}
    (h : idLength? (digits ++ more) = some n) (hdigits : ∀ c ∈ digits, isHex c = true)
    (hmore : ∀ c ∈ more.head?, isHexOrHyphen c = false) :
    (digits ++ more).take n = digits.take 64 := by
  rw [idLength?_append hmore, idLength?_of_hex hdigits] at h
  split_ifs at h with hlong hshort
  · rw [← Option.some.inj h]
    exact List.take_append_of_le_length hlong
  · rw [← Option.some.inj h, List.take_left, List.take_of_length_le (Nat.le_of_not_le hlong)]

lemma IsId.text_eq {hit : Hit} (h : IsId hit) : hit.text = hit.span ++ hit.rest := by
  simp [Hit.text, Hit.taken, h.lead, h.tail]

lemma IsId.isContainerId {hit : Hit} (h : IsId hit) : IsContainerId hit := by
  have hspan : hit.text.take hit.span.length = hit.span := by rw [h.text_eq, List.take_left]
  obtain ⟨-, hchars, hcore⟩ := core_of_idLength? h.length
  rw [hspan] at hchars hcore
  refine ⟨h.lead, h.tail, hchars, hcore, fun digits more htext hdigits _ hmore => ?_⟩
  rw [← hspan, htext]
  exact take_of_idLength? (htext ▸ h.length) hdigits hmore

/-- One id starts a text, or none. -/
lemma exact_id : Exact IsId NoId where
  unique hit other h h' htext := by
    obtain ⟨lead, span, tail, rest⟩ := hit
    obtain ⟨lead', span', tail', rest'⟩ := other
    have hlen : span.length = span'.length :=
      Option.some.inj (h.length.symm.trans (htext ▸ h'.length))
    have hsplit : span ++ rest = span' ++ rest' := h.text_eq.symm.trans (htext.trans h'.text_eq)
    obtain ⟨rfl, rfl⟩ := List.append_inj hsplit hlen
    obtain ⟨rfl, rfl, -⟩ := h
    obtain ⟨rfl, rfl, -⟩ := h'
    rfl
  none hit h hnone := by
    have hlength := h.length
    rw [show idLength? hit.text = none from hnone] at hlength
    cases hlength

lemma NoId.noContainerId {text : List Char} (h : NoId text) : NoContainerId text := by
  have hno : ¬ startsWithGroups idGroups text = true ∧ ¬ 28 ≤ runLength isHex text := by
    unfold NoId idLength? at h
    dsimp only at h
    split_ifs at h with _ _ hgroups hrun
    exact ⟨hgroups, hrun⟩
  rintro w hw (hhex | hgroups)
  · exact hno.2 (le_runLength_isHex_iff.mpr ⟨w, hw, hhex.1, hhex.2⟩)
  · exact hno.1 (startsWithGroups_iff.mpr ⟨w, hw, hgroups⟩)

lemma text_take_drop (text : List Char) (n : Nat) :
    (⟨[], text.take n, [], text.drop n⟩ : Hit).text = text := by
  simp [Hit.text, Hit.taken]

/-- The id that starts a text. -/
lemma isId_of_idLength? {text : List Char} {n : Nat} (h : idLength? text = some n) :
    IsId ⟨[], text.take n, [], text.drop n⟩ ∧
      (⟨[], text.take n, [], text.drop n⟩ : Hit).taken ≠ [] := by
  obtain ⟨hlen, -, w, hw, hcore⟩ := core_of_idLength? h
  refine ⟨⟨rfl, rfl, by rw [text_take_drop, h, List.length_take_of_le hlen]⟩, fun hnil => ?_⟩
  have hempty : text.take n = [] := by simpa [Hit.taken] using hnil
  rw [hempty, List.prefix_nil] at hw
  exact hcore.ne_star.1 hw

/-- A container id is found where one starts, and it is written over up to its end. -/
theorem finds_id : containerIdTerm.Finds 0 IsId NoId := by
  intro before offset text
  rw [matchAt?_eq_idLength? ⟨before, offset, text⟩]
  cases h : idLength? text with
  | none => exact Or.inl ⟨rfl, h⟩
  | some n =>
    obtain ⟨hid, hne⟩ := isId_of_idLength? h
    refine Or.inr ⟨_, _, text_take_drop text n, hid, rfl, hne, ?_, ?_⟩
    · simp [Trail.lastClosed, Hit.taken, Place.skip, Place.after]
    · simp [Trail.span_eq_some_iff, Trail.lastClosed, Trail.lastOpened, Place.skip, Place.after]

end StablePath.Builtin
