import Mathlib.Data.List.Forall2
import Mathlib.Tactic.Common
import StablePath.Pattern.Thread
import StablePath.Text.Basic

/-!
Reading from a place in a text.

Words of character classes are read in one way at most. A run of a class can be left after any of
its characters; which of them is tried first matters, so a loop keeps the way on from there.
-/

namespace StablePath.Pattern

open Text

/-- A place in a text: what stands before it, its byte offset, and the rest of the text. -/
structure Place where
  before : Option Char
  offset : Nat
  text : List Char

namespace Place

/-- The place that is reached from another by some text. -/
def after (before : Option Char) (offset : Nat) (used rest : List Char) : Place :=
  ⟨used.getLast?.or before, offset + width used, rest⟩

/-- Reads one character of each class of a word. -/
def read : (word : List CharSet) → Place → Option Place
  | [], p => some p
  | _ :: _, ⟨_, _, []⟩ => none
  | s :: word, ⟨_, offset, c :: text⟩ =>
    if s.contains c.toNat then read word ⟨some c, offset + c.utf8Size, text⟩ else none

/-- Goes on after a run of a class, after the longest one that this is possible from. -/
def loop (s : CharSet) (next : Place → Option Trail) (before : Option Char) (offset : Nat) :
    (text : List Char) → Option Trail
  | [] => next ⟨before, offset, []⟩
  | c :: text =>
    if s.contains c.toNat then
      loop s next (some c) (offset + c.utf8Size) text <|> next ⟨before, offset, c :: text⟩
    else next ⟨before, offset, c :: text⟩

/-- Goes on after a run of a class of at least so many characters. -/
def times (lo : Nat) (s : CharSet) (next : Place → Option Trail) (p : Place) : Option Trail :=
  (p.read (List.replicate lo s)).bind fun q => loop s next q.before q.offset q.text

lemma after_cons (before : Option Char) (offset : Nat) (c : Char) (used rest : List Char) :
    after before offset (c :: used) rest = after (some c) (offset + c.utf8Size) used rest := by
  have hlast : (c :: used).getLast?.or before = used.getLast?.or (some c) := by
    rw [List.getLast?_cons]
    cases used.getLast? <;> rfl
  simp [after, hlast, Nat.add_assoc]

lemma read_append (word more : List CharSet) (p : Place) :
    p.read (word ++ more) = (p.read word).bind (read more) := by
  fun_induction read word p with
  | case1 => rfl
  | case2 => rfl
  | case3 s word before offset c text hc ih => rw [List.cons_append, read, if_pos hc, ih]
  | case4 s word before offset c text hc => rw [List.cons_append, read, if_neg hc]; rfl

end Place

/-- A text has one character of each class of a word. -/
def Spells (word : List CharSet) (used : List Char) : Prop :=
  List.Forall₂ (fun s c => s.contains c.toNat = true) word used

namespace Place

lemma read_eq_some_iff {word : List CharSet} {p q : Place} :
    p.read word = some q ↔
      ∃ used rest, p.text = used ++ rest ∧ Spells word used ∧ q = after p.before p.offset used rest := by
  fun_induction read word p with
  | case1 p =>
    constructor
    · intro h
      exact ⟨[], p.text, rfl, .nil, (Option.some.inj h).symm⟩
    · rintro ⟨used, rest, htext, hused, rfl⟩
      obtain rfl := List.forall₂_nil_left_iff.mp hused
      obtain rfl : p.text = rest := htext
      rfl
  | case2 s word before offset =>
    constructor
    · intro h
      cases h
    · rintro ⟨used, rest, htext, hused, -⟩
      obtain ⟨rfl, -⟩ := List.append_eq_nil_iff.mp htext.symm
      cases hused
  | case3 s word before offset c text hc ih =>
    rw [ih]
    constructor
    · rintro ⟨used, rest, htext, hused, rfl⟩
      exact ⟨c :: used, rest, congrArg (c :: ·) htext, .cons hc hused, (after_cons ..).symm⟩
    · rintro ⟨used, rest, htext, hused, rfl⟩
      cases hused with
      | cons _ hused =>
        obtain ⟨rfl, hsplit⟩ := List.cons.inj htext
        exact ⟨_, rest, hsplit, hused, after_cons ..⟩
  | case4 s word before offset c text hc =>
    constructor
    · intro h
      cases h
    · rintro ⟨used, rest, htext, hused, -⟩
      cases hused with
      | cons hd _ =>
        obtain ⟨rfl, -⟩ := List.cons.inj htext
        exact absurd hd hc

variable {s : CharSet} {next : Place → Option Trail} {before : Option Char} {offset : Nat}
  {text : List Char}

lemma loop_eq_none (h : loop s next before offset text = none) {used rest : List Char}
    (htext : text = used ++ rest) (hused : ∀ c ∈ used, s.contains c.toNat = true) :
    next (after before offset used rest) = none := by
  induction text generalizing before offset used with
  | nil =>
    obtain ⟨rfl, rfl⟩ := List.append_eq_nil_iff.mp htext.symm
    rw [loop] at h
    exact h
  | cons c text ih =>
    rw [loop] at h
    cases used with
    | nil =>
      obtain rfl : c :: text = rest := htext
      split_ifs at h
      · simp at h
        exact h.2
      · exact h
    | cons d used =>
      obtain ⟨rfl, hsplit⟩ := List.cons.inj htext
      obtain ⟨hc, hused⟩ := List.forall_mem_cons.mp hused
      rw [if_pos hc, Option.orElse_eq_orElse, Option.orElse_eq_or, Option.or_eq_none_iff] at h
      rw [after_cons]
      exact ih h.1 hsplit hused

/-- A character is taken if that leads on, and else the loop is left before it. -/
lemma loop_cons_eq_some {c : Char} {trail : Trail} :
    loop s next before offset (c :: text) = some trail ↔
      s.contains c.toNat = true ∧ loop s next (some c) (offset + c.utf8Size) text = some trail ∨
        (s.contains c.toNat = true → loop s next (some c) (offset + c.utf8Size) text = none) ∧
          next ⟨before, offset, c :: text⟩ = some trail := by
  rw [loop]
  split_ifs with hc
  · rw [Option.orElse_eq_orElse, Option.orElse_eq_or, Option.or_eq_some_iff]
    simp [hc]
  · simp [hc]

/-- The loop is left after the longest run that it is possible to go on from. -/
lemma loop_eq_some {trail : Trail} (h : loop s next before offset text = some trail) :
    ∃ used rest, text = used ++ rest ∧ (∀ c ∈ used, s.contains c.toNat = true) ∧
      next (after before offset used rest) = some trail ∧
      ∀ used' rest', text = used' ++ rest' → (∀ c ∈ used', s.contains c.toNat = true) →
        used.length < used'.length →
          next (after before offset used' rest') = none := by
  induction text generalizing before offset with
  | nil =>
    refine ⟨[], [], rfl, by simp, h, fun used' rest' htext _ hlt => ?_⟩
    obtain ⟨rfl, -⟩ := List.append_eq_nil_iff.mp htext.symm
    exact absurd hlt (Nat.lt_irrefl _)
  | cons c text ih =>
    rcases loop_cons_eq_some.mp h with ⟨hc, hmore⟩ | ⟨hnone, hnext⟩
    · obtain ⟨used, rest, htext, hused, hnext, hlongest⟩ := ih hmore
      refine ⟨c :: used, rest, by rw [htext]; rfl, List.forall_mem_cons.mpr ⟨hc, hused⟩,
        by rw [after_cons, hnext], fun used' rest' htext' hused' hlt => ?_⟩
      cases used' with
      | nil => exact absurd hlt (Nat.not_lt_zero _)
      | cons d used' =>
        obtain ⟨rfl, hsplit⟩ := List.cons.inj htext'
        rw [after_cons]
        exact hlongest used' rest' hsplit (List.forall_mem_cons.mp hused').2
          (Nat.lt_of_succ_lt_succ hlt)
    · refine ⟨[], c :: text, rfl, by simp, hnext, fun used' rest' htext' hused' hlt => ?_⟩
      cases used' with
      | nil => exact absurd hlt (Nat.lt_irrefl _)
      | cons d used' =>
        obtain ⟨rfl, hsplit⟩ := List.cons.inj htext'
        obtain ⟨hc, hused'⟩ := List.forall_mem_cons.mp hused'
        rw [after_cons]
        exact loop_eq_none (hnone hc) hsplit hused'

end Place

lemma spells_append {v w : List CharSet} {used : List Char} :
    Spells (v ++ w) used ↔ ∃ x y, used = x ++ y ∧ Spells v x ∧ Spells w y := by
  constructor
  · intro h
    have hx := List.forall₂_take v.length h
    have hy := List.forall₂_drop v.length h
    rw [List.take_left] at hx
    rw [List.drop_left] at hy
    exact ⟨_, _, (List.take_append_drop v.length used).symm, hx, hy⟩
  · rintro ⟨x, y, rfl, hx, hy⟩
    exact List.rel_append hx hy

lemma spells_replicate {n : Nat} {s : CharSet} {used : List Char} :
    Spells (List.replicate n s) used ↔
      used.length = n ∧ ∀ c ∈ used, s.contains c.toNat = true := by
  induction n generalizing used with
  | zero =>
    rw [List.replicate_zero, Spells, List.forall₂_nil_left_iff]
    constructor
    · rintro rfl
      exact ⟨rfl, by simp⟩
    · exact fun h => List.length_eq_zero_iff.mp h.1
  | succ n ih =>
    cases used with
    | nil => simp [Spells, List.replicate_succ]
    | cons c used =>
      rw [List.replicate_succ, Spells, List.forall₂_cons, ← Spells, ih, List.length_cons,
        List.forall_mem_cons, Nat.succ_inj]
      tauto

/-- The word that only one text spells. -/
def exactly (text : List Char) : List CharSet := text.map CharSet.single

lemma contains_single {c d : Char} : (CharSet.single d).contains c.toNat = true ↔ c = d := by
  simp only [CharSet.single, CharSet.contains_range, Bool.and_eq_true, decide_eq_true_eq]
  constructor
  · intro h
    exact Char.toNat_inj.mp (by omega)
  · rintro rfl
    exact ⟨Nat.le_refl _, Nat.le_refl _⟩

@[simp] lemma spells_exactly {text used : List Char} : Spells (exactly text) used ↔ used = text := by
  induction text generalizing used with
  | nil => simp [exactly, Spells]
  | cons c text ih =>
    cases used with
    | nil => simp [exactly, Spells]
    | cons d used =>
      unfold exactly Spells at ih ⊢
      rw [List.map_cons, List.forall₂_cons, contains_single, ih, List.cons.injEq]

namespace Place

variable {lo : Nat} {s : CharSet} {next : Place → Option Trail} {p : Place}

lemma read_exactly_iff {word : List Char} {q : Place} : p.read (exactly word) = some q ↔
    ∃ rest, p.text = word ++ rest ∧ q = after p.before p.offset word rest := by
  rw [read_eq_some_iff]
  constructor
  · rintro ⟨used, rest, htext, hspells, rfl⟩
    obtain rfl := spells_exactly.mp hspells
    exact ⟨rest, htext, rfl⟩
  · rintro ⟨rest, htext, rfl⟩
    exact ⟨word, rest, htext, spells_exactly.mpr rfl, rfl⟩

variable {words : List (List Char)}

/-- None of some texts leads on if nothing follows where one of them has been read. -/
lemma findSome?_exactly_eq_none_iff :
    ((words.map exactly).findSome? fun w => (p.read w).bind next) = none ↔
      ∀ word ∈ words, ∀ rest, p.text = word ++ rest →
        next (after p.before p.offset word rest) = none := by
  rw [List.findSome?_eq_none_iff, List.forall_mem_map]
  refine forall₂_congr fun word _ => ?_
  rw [Option.bind_eq_none_iff]
  constructor
  · intro h rest htext
    exact h _ (read_exactly_iff.mpr ⟨rest, htext, rfl⟩)
  · rintro h q hq
    obtain ⟨rest, htext, rfl⟩ := read_exactly_iff.mp hq
    exact h rest htext

lemma exists_of_findSome?_exactly {trail : Trail}
    (h : ((words.map exactly).findSome? fun w => (p.read w).bind next) = some trail) :
    ∃ word ∈ words, ∃ rest, p.text = word ++ rest ∧
      next (after p.before p.offset word rest) = some trail := by
  obtain ⟨w, hw, hsome⟩ := List.exists_of_findSome?_eq_some h
  obtain ⟨word, hword, rfl⟩ := List.mem_map.mp hw
  obtain ⟨q, hread, hnext⟩ := Option.bind_eq_some_iff.mp hsome
  obtain ⟨rest, htext, rfl⟩ := read_exactly_iff.mp hread
  exact ⟨word, hword, rest, htext, hnext⟩

lemma after_after (before : Option Char) (offset : Nat) (u v rest rest' : List Char) :
    after (after before offset u rest').before (after before offset u rest').offset v rest =
      after before offset (u ++ v) rest := by
  simp [after, List.getLast?_append, Nat.add_assoc, Option.or_assoc]

lemma times_eq_none (h : times lo s next p = none) {used rest : List Char}
    (htext : p.text = used ++ rest) (hlo : lo ≤ used.length)
    (hused : ∀ c ∈ used, s.contains c.toNat = true) :
    next (after p.before p.offset used rest) = none := by
  obtain ⟨u, v, rfl, hu⟩ : ∃ u v, used = u ++ v ∧ u.length = lo :=
    ⟨used.take lo, used.drop lo, (List.take_append_drop lo used).symm, List.length_take_of_le hlo⟩
  obtain ⟨hall, hmore⟩ := List.forall_mem_append.mp hused
  have hread : p.read (List.replicate lo s) = some (after p.before p.offset u (v ++ rest)) :=
    read_eq_some_iff.mpr ⟨u, v ++ rest, by rw [htext, List.append_assoc],
      spells_replicate.mpr ⟨hu, hall⟩, rfl⟩
  rw [times, hread, Option.bind_some] at h
  have hnone := loop_eq_none h rfl hmore
  rwa [after_after] at hnone

lemma times_eq_some {trail : Trail} (h : times lo s next p = some trail) :
    ∃ used rest, p.text = used ++ rest ∧ lo ≤ used.length ∧
      (∀ c ∈ used, s.contains c.toNat = true) ∧
      next (after p.before p.offset used rest) = some trail ∧
      ∀ used' rest', p.text = used' ++ rest' → lo ≤ used'.length →
        (∀ c ∈ used', s.contains c.toNat = true) → used.length < used'.length →
          next (after p.before p.offset used' rest') = none := by
  obtain ⟨q, hread, hloop⟩ := Option.bind_eq_some_iff.mp h
  obtain ⟨u, text, htext, hu, rfl⟩ := read_eq_some_iff.mp hread
  obtain ⟨hlo, hall⟩ := spells_replicate.mp hu
  obtain ⟨v, rest, hsplit, hv, hnext, hlongest⟩ := loop_eq_some hloop
  have hrest : text = v ++ rest := hsplit
  rw [after_after] at hnext
  refine ⟨u ++ v, rest, by rw [htext, hrest, List.append_assoc], by simp [hlo],
    List.forall_mem_append.mpr ⟨hall, hv⟩, hnext, fun used' rest' htext' hlo' hused' hlt => ?_⟩
  -- a longer run begins with the same `lo` characters
  obtain ⟨w, rfl⟩ : ∃ w, used' = u ++ w := by
    have hstart : u <+: used' := List.prefix_of_prefix_length_le ⟨text, rfl⟩
      ⟨rest', htext'.symm.trans htext⟩ (by omega)
    obtain ⟨w, hw⟩ := hstart
    exact ⟨w, hw.symm⟩
  have hw : text = w ++ rest' := by
    rw [htext, List.append_assoc] at htext'
    exact List.append_cancel_left htext'
  have hnone := hlongest w rest' hw (List.forall_mem_append.mp hused').2
    (by simpa [hlo] using hlt)
  rwa [after_after] at hnone

end Place

/-! ### The longest run -/

/-- How many characters of a class a text begins with. -/
def runLength (p : Char → Bool) (text : List Char) : Nat := (text.takeWhile p).length

lemma le_runLength_iff {p : Char → Bool} {n : Nat} {text : List Char} :
    n ≤ runLength p text ↔ n ≤ text.length ∧ ∀ c ∈ text.take n, p c = true := by
  unfold runLength
  constructor
  · intro h
    have hstart := List.takeWhile_prefix (l := text) p
    refine ⟨Nat.le_trans h hstart.length_le, fun c hc => ?_⟩
    rw [← List.takeWhile_append_dropWhile (p := p) (l := text), List.take_append_of_le_length h] at hc
    exact List.all_eq_true.mp List.all_takeWhile c (List.mem_of_mem_take hc)
  · rintro ⟨hlen, hall⟩
    rw [← List.take_append_drop n text, List.takeWhile_append_of_pos hall, List.length_append,
      List.length_take_of_le hlen]
    exact Nat.le_add_right _ _

lemma runLength_of_all {p : Char → Bool} {text : List Char} (h : ∀ c ∈ text, p c = true) :
    runLength p text = text.length := by
  unfold runLength
  rw [← List.append_nil text, List.takeWhile_append_of_pos h, List.takeWhile_nil]

/-- A run ends before a text that does not go on with the class. -/
lemma runLength_append {p : Char → Bool} {rest : List Char} (hrest : ∀ c ∈ rest.head?, p c = false)
    (text : List Char) : runLength p (text ++ rest) = runLength p text := by
  have hnone : rest.takeWhile p = [] := by
    cases rest with
    | nil => rfl
    | cons c rest => simp [hrest c rfl]
  unfold runLength
  rw [List.takeWhile_append, hnone, List.append_nil]
  split_ifs with hall
  · exact hall.symm
  · rfl

namespace Place

/-- The place that so many characters lead to. -/
def skip (n : Nat) (p : Place) : Place := after p.before p.offset (p.text.take n) (p.text.drop n)

@[simp] lemma text_skip (n : Nat) (p : Place) : (p.skip n).text = p.text.drop n := rfl

lemma skip_skip (m n : Nat) (p : Place) : (p.skip m).skip n = p.skip (m + n) := by
  unfold skip
  rw [List.take_add, ← List.drop_drop]
  exact after_after p.before p.offset _ _ _ _

lemma skip_of_append {used rest : List Char} {p : Place} (h : p.text = used ++ rest) :
    p.skip used.length = after p.before p.offset used rest := by
  simp [skip, h]

variable {s : CharSet} {kind : Char → Bool} {next : Place → Option Trail}

lemma read_replicate (hs : ∀ c, s.contains c.toNat = kind c) (n : Nat) (p : Place) :
    p.read (List.replicate n s) = if n ≤ runLength kind p.text then some (p.skip n) else none := by
  split_ifs with h
  · obtain ⟨hlen, hall⟩ := le_runLength_iff.mp h
    refine read_eq_some_iff.mpr ⟨_, _, (List.take_append_drop n p.text).symm, ?_, rfl⟩
    exact spells_replicate.mpr ⟨List.length_take_of_le hlen, fun c hc => (hs c).trans (hall c hc)⟩
  · rw [Option.eq_none_iff_forall_ne_some]
    intro q hread
    obtain ⟨used, rest, htext, hspells, -⟩ := read_eq_some_iff.mp hread
    obtain ⟨rfl, hall⟩ := spells_replicate.mp hspells
    refine h (le_runLength_iff.mpr ⟨?_, ?_⟩)
    · simp [htext]
    · rw [htext, List.take_left]
      exact fun c hc => (hs c).symm.trans (hall c hc)

/-- A loop that can always be left is left after the longest run. -/
lemma loop_eq_skip (hs : ∀ c, s.contains c.toNat = kind c) (hnext : ∀ q, (next q).isSome)
    (p : Place) :
    loop s next p.before p.offset p.text = next (p.skip (runLength kind p.text)) := by
  obtain ⟨before, offset, text⟩ := p
  induction text generalizing before offset with
  | nil => rfl
  | cons c text ih =>
    by_cases hc : kind c = true
    · have hskip : (⟨before, offset, c :: text⟩ : Place).skip (runLength kind (c :: text)) =
          (⟨some c, offset + c.utf8Size, text⟩ : Place).skip (runLength kind text) := by
        simp [runLength, hc, skip, after_cons]
      obtain ⟨trail, htrail⟩ := Option.isSome_iff_exists.mp (hnext
        ((⟨some c, offset + c.utf8Size, text⟩ : Place).skip (runLength kind text)))
      rw [loop, if_pos ((hs c).trans hc), ih (some c) (offset + c.utf8Size), hskip, htrail]
      rfl
    · have hzero : runLength kind (c :: text) = 0 := by simp [runLength, hc]
      rw [loop, if_neg (by rw [hs]; exact hc), hzero]
      rfl

lemma times_eq_skip (hs : ∀ c, s.contains c.toNat = kind c) (hnext : ∀ q, (next q).isSome)
    (lo : Nat) (p : Place) :
    times lo s next p = if lo ≤ runLength kind p.text then
      next (p.skip (runLength kind p.text)) else none := by
  rw [times, read_replicate hs]
  split_ifs with h
  · obtain ⟨hlen, hall⟩ := le_runLength_iff.mp h
    -- what is left of the run behind its first part
    have hrun : runLength kind p.text = lo + runLength kind (p.text.drop lo) := by
      have hsplit := List.take_append_drop lo p.text
      unfold runLength
      nth_rewrite 1 [← hsplit]
      rw [List.takeWhile_append_of_pos hall, List.length_append, List.length_take_of_le hlen]
    rw [Option.bind_some, loop_eq_skip hs hnext, text_skip, skip_skip, hrun]
  · rfl

end Place

end StablePath.Pattern
