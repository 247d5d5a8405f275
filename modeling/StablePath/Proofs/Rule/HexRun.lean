import Mathlib.Data.List.Infix
import StablePath.Proofs.Text.Lines
import StablePath.Rule.Gate

/-!
Runs of hexadecimal digits and hyphens.

The scan for a run counts how much of one it has just read and forgets the count at any other
character. It looks at the count only after a character of a run, so it finds the runs that are
long enough and not empty: no length is short enough for a path without any such character.
-/

namespace StablePath

open Text

/-! ### Runs of characters -/

/-- Hexadecimal digits and hyphens, and at least one of them. -/
def IsRun (run : List Char) : Prop := run ≠ [] ∧ ∀ c ∈ run, isHexOrHyphen c = true

section

variable {length count : Nat} {path : List Char} {c : Char}

lemma isRun_singleton (hc : isHexOrHyphen c = true) : IsRun [c] := ⟨by simp, by simpa using hc⟩

lemma IsRun.cons (hc : isHexOrHyphen c = true) {run : List Char} (h : IsRun run) :
    IsRun (c :: run) :=
  ⟨by simp, List.forall_mem_cons.mpr ⟨hc, h.2⟩⟩

lemma not_isRun_of_front (hc : isHexOrHyphen c ≠ true) {run : List Char} (h : run <+: c :: path) :
    ¬ IsRun run := by
  rintro ⟨hne, hhex⟩
  obtain ⟨d, run, rfl⟩ := List.exists_cons_of_ne_nil hne
  obtain ⟨rfl, -⟩ := List.cons_prefix_cons.mp h
  exact hc (hhex d List.mem_cons_self)

/-- A run that goes on with a character ends there or farther on. -/
lemma exists_run_prefix_cons (hc : isHexOrHyphen c = true) :
    (∃ run, run <+: c :: path ∧ IsRun run ∧ length ≤ count + run.length) ↔
      length ≤ count + 1 ∨ ∃ run, run <+: path ∧ IsRun run ∧ length ≤ count + 1 + run.length := by
  constructor
  · rintro ⟨run, hrun, ⟨hne, hhex⟩, hlen⟩
    obtain ⟨d, run, rfl⟩ := List.exists_cons_of_ne_nil hne
    obtain ⟨-, hrun⟩ := List.cons_prefix_cons.mp hrun
    rw [List.length_cons] at hlen
    by_cases hnil : run = []
    · subst hnil
      exact Or.inl hlen
    · exact Or.inr ⟨run, hrun, ⟨hnil, (List.forall_mem_cons.mp hhex).2⟩, by omega⟩
  · rintro (hlen | ⟨run, hrun, h, hlen⟩)
    · exact ⟨[c], List.prefix_append [c] path, isRun_singleton hc, hlen⟩
    · refine ⟨c :: run, (List.prefix_cons_inj c).mpr hrun, h.cons hc, ?_⟩
      rw [List.length_cons]
      omega

lemma exists_run_infix_cons :
    (∃ run, run <:+: c :: path ∧ IsRun run ∧ length ≤ run.length) ↔
      (∃ run, run <+: c :: path ∧ IsRun run ∧ length ≤ run.length) ∨
        ∃ run, run <:+: path ∧ IsRun run ∧ length ≤ run.length := by
  rw [← exists_or]
  exact exists_congr fun run => by rw [List.infix_cons_iff, or_and_right]

/-- What the scan has still to find: the rest of the run that it is in, or a run farther on. -/
lemma reachesHexRun_iff : reachesHexRun length count path = true ↔
    (∃ run, run <+: path ∧ IsRun run ∧ length ≤ count + run.length) ∨
      ∃ run, run <:+: path ∧ IsRun run ∧ length ≤ run.length := by
  induction path generalizing count with
  | nil => simp [reachesHexRun, IsRun]
  | cons c path ih =>
    rw [reachesHexRun, exists_run_infix_cons]
    split_ifs with hc
    · -- the run goes on with `c`, and any other run that begins here is no longer
      rw [Bool.or_eq_true, decide_eq_true_eq, ih, exists_run_prefix_cons hc, ← or_assoc, ← or_assoc]
      refine or_congr_left (or_iff_left_of_imp fun ⟨run, hrun, h, hlen⟩ => ?_).symm
      exact (exists_run_prefix_cons hc).mp ⟨run, hrun, h, Nat.le_add_left_of_le hlen⟩
    · -- no run has `c` in it
      rw [ih]
      constructor
      · rintro (⟨run, hrun, h, hlen⟩ | hfar)
        · exact Or.inr (Or.inr ⟨run, hrun.isInfix, h, by omega⟩)
        · exact Or.inr (Or.inr hfar)
      · rintro (⟨run, hrun, h, -⟩ | ⟨run, hrun, h, -⟩ | hfar)
        · exact absurd h (not_isRun_of_front hc hrun)
        · exact absurd h (not_isRun_of_front hc hrun)
        · exact Or.inr hfar

lemma hasHexRun_iff : hasHexRun length path = true ↔
    ∃ run, run <:+: path ∧ (∀ c ∈ run, isHexOrHyphen c = true) ∧ max length 1 ≤ run.length := by
  rw [hasHexRun, reachesHexRun_iff]
  constructor
  · rintro (⟨run, hrun, ⟨hne, hhex⟩, hlen⟩ | ⟨run, hrun, ⟨hne, hhex⟩, hlen⟩)
    · exact ⟨run, hrun.isInfix, hhex, Nat.max_le.mpr ⟨by omega, List.length_pos_iff.mpr hne⟩⟩
    · exact ⟨run, hrun, hhex, Nat.max_le.mpr ⟨hlen, List.length_pos_iff.mpr hne⟩⟩
  · rintro ⟨run, hrun, hhex, hlen⟩
    obtain ⟨hlen, hpos⟩ := Nat.max_le.mp hlen
    exact Or.inr ⟨run, hrun, ⟨List.length_pos_iff.mp hpos, hhex⟩, hlen⟩

end

/-! ### Runs of bytes -/

/-- A byte encodes a hexadecimal digit or a hyphen. -/
def IsHexByte (byte : UInt8) : Prop :=
  0x30 ≤ byte ∧ byte ≤ 0x39 ∨ 0x61 ≤ byte ∧ byte ≤ 0x66 ∨ 0x41 ≤ byte ∧ byte ≤ 0x46 ∨ byte = 0x2D

/-- Some part of a stream of bytes has a length and consists of hexadecimal digits and hyphens. -/
def HasRun (length : Nat) (bytes : List UInt8) : Prop :=
  ∃ run, run <:+: bytes ∧ (∀ byte ∈ run, IsHexByte byte) ∧ length ≤ run.length

lemma isHexByte_iff {byte : UInt8} : IsHexByte byte ↔
    (48 ≤ byte.toNat ∧ byte.toNat ≤ 57) ∨ (97 ≤ byte.toNat ∧ byte.toNat ≤ 102) ∨
      (65 ≤ byte.toNat ∧ byte.toNat ≤ 70) ∨ byte.toNat = 45 := by
  simp only [IsHexByte, UInt8.le_iff_toNat_le, ← UInt8.toNat_inj, UInt8.reduceToNat]

lemma isHexOrHyphen_iff_toNat {c : Char} : isHexOrHyphen c = true ↔
    (48 ≤ c.toNat ∧ c.toNat ≤ 57) ∨ (97 ≤ c.toNat ∧ c.toNat ≤ 102) ∨
      (65 ≤ c.toNat ∧ c.toNat ≤ 70) ∨ c.toNat = 45 := by
  simp only [isHexOrHyphen, Char.isDigit, Bool.or_eq_true, Bool.and_eq_true, decide_eq_true_eq,
    beq_iff_eq, ← Char.toNat_inj, or_assoc, Char.le_def, UInt32.le_iff_toNat_le]
  rfl

lemma isHexByte_ofNat_iff {c : Char} (hc : c.toNat < 128) :
    IsHexByte (UInt8.ofNat c.toNat) ↔ isHexOrHyphen c = true := by
  have hnat : (UInt8.ofNat c.toNat).toNat = c.toNat := by
    rw [UInt8.toNat_ofNat', Nat.mod_eq_of_lt (by omega)]
  rw [isHexByte_iff, isHexOrHyphen_iff_toNat, hnat]

/-- Bytes below 128 that start an encoded text encode characters that start the text. -/
lemma exists_prefix_of_encoded {run : List UInt8} {text : List Char}
    (h : run <+: text.flatMap String.utf8EncodeChar) (hrun : ∀ byte ∈ run, byte.toNat < 128) :
    ∃ chars, chars <+: text ∧ (∀ c ∈ chars, c.toNat < 128) ∧
      run = chars.map fun c => UInt8.ofNat c.toNat := by
  induction run generalizing text with
  | nil => exact ⟨[], List.nil_prefix, by simp, rfl⟩
  | cons byte run ih =>
    obtain ⟨hbyte, hmore⟩ := List.forall_mem_cons.mp hrun
    cases text with
    | nil => simp at h
    | cons c text =>
      rw [List.flatMap_cons] at h
      rcases utf8EncodeChar_cases c with ⟨hc, hone⟩ | ⟨-, hmany⟩
      · rw [hone, List.singleton_append] at h
        obtain ⟨rfl, hrest⟩ := List.cons_prefix_cons.mp h
        obtain ⟨chars, hchars, hlt, rfl⟩ := ih hrest hmore
        exact ⟨c :: chars, (List.prefix_cons_inj c).mpr hchars,
          List.forall_mem_cons.mpr ⟨hc, hlt⟩, rfl⟩
      · obtain ⟨first, others, henc⟩ := List.exists_cons_of_ne_nil
          (show String.utf8EncodeChar c ≠ [] by simp)
        rw [henc, List.cons_append] at h
        obtain ⟨rfl, -⟩ := List.cons_prefix_cons.mp h
        have hlarge := hmany byte (henc ▸ List.mem_cons_self)
        omega

/-- Bytes below 128 are no part of the encoding of a longer character. -/
lemma infix_of_infix_append {run large rest : List UInt8} (h : run <:+: large ++ rest)
    (hrun : ∀ byte ∈ run, byte.toNat < 128) (hlarge : ∀ byte ∈ large, 128 ≤ byte.toNat) :
    run <:+: rest := by
  induction large with
  | nil => exact h
  | cons byte large ih =>
    obtain ⟨hbyte, hlarge⟩ := List.forall_mem_cons.mp hlarge
    rw [List.cons_append] at h
    rcases List.infix_cons_iff.mp h with h | h
    · cases run with
      | nil => exact List.nil_infix
      | cons first run =>
        obtain ⟨rfl, -⟩ := List.cons_prefix_cons.mp h
        have hsmall := hrun first List.mem_cons_self
        omega
    · exact ih h hlarge

lemma exists_infix_of_encoded {run : List UInt8} {text : List Char}
    (h : run <:+: text.flatMap String.utf8EncodeChar) (hrun : ∀ byte ∈ run, byte.toNat < 128) :
    ∃ chars, chars <:+: text ∧ (∀ c ∈ chars, c.toNat < 128) ∧
      run = chars.map fun c => UInt8.ofNat c.toNat := by
  induction text with
  | nil => exact ⟨[], List.nil_infix, by simp, List.infix_nil.mp h⟩
  | cons c text ih =>
    rw [List.flatMap_cons] at h
    rcases utf8EncodeChar_cases c with ⟨-, hone⟩ | ⟨-, hmany⟩
    · rw [hone, List.singleton_append] at h
      rcases List.infix_cons_iff.mp h with h | h
      · have hstart : run <+: (c :: text).flatMap String.utf8EncodeChar := by
          rwa [List.flatMap_cons, hone, List.singleton_append]
        obtain ⟨chars, hchars, hrest⟩ := exists_prefix_of_encoded hstart hrun
        exact ⟨chars, hchars.isInfix, hrest⟩
      · obtain ⟨chars, hchars, hrest⟩ := ih h
        exact ⟨chars, List.infix_cons hchars, hrest⟩
    · obtain ⟨chars, hchars, hrest⟩ := ih (infix_of_infix_append h hrun hmany)
      exact ⟨chars, List.infix_cons hchars, hrest⟩

lemma flatMap_utf8EncodeChar {chars : List Char} (h : ∀ c ∈ chars, c.toNat < 128) :
    chars.flatMap String.utf8EncodeChar = chars.map fun c => UInt8.ofNat c.toNat := by
  induction chars with
  | nil => rfl
  | cons c chars ih =>
    obtain ⟨hc, hchars⟩ := List.forall_mem_cons.mp h
    rcases utf8EncodeChar_cases c with ⟨-, hone⟩ | ⟨hlarge, -⟩
    · rw [List.flatMap_cons, hone, ih hchars]
      rfl
    · omega

lemma hasRun_encode_iff {length : Nat} {path : String} : HasRun length (encode path) ↔
    ∃ run, run <:+: path.toList ∧ (∀ c ∈ run, isHexOrHyphen c = true) ∧ length ≤ run.length := by
  rw [encode_eq]
  constructor
  · rintro ⟨run, hrun, hhex, hlen⟩
    -- bytes of a run are characters of their own
    have hsmall : ∀ byte ∈ run, byte.toNat < 128 := fun byte hbyte => by
      have := isHexByte_iff.mp (hhex byte hbyte)
      omega
    obtain ⟨chars, hchars, hlt, rfl⟩ := exists_infix_of_encoded hrun hsmall
    rw [List.length_map] at hlen
    refine ⟨chars, hchars, fun c hc => ?_, hlen⟩
    exact (isHexByte_ofNat_iff (hlt c hc)).mp (hhex _ (List.mem_map_of_mem hc))
  · rintro ⟨run, ⟨front, back, hpath⟩, hhex, hlen⟩
    have hlt : ∀ c ∈ run, c.toNat < 128 := fun c hc => by
      have := isHexOrHyphen_iff_toNat.mp (hhex c hc)
      omega
    refine ⟨run.flatMap String.utf8EncodeChar, ?_, ?_, ?_⟩
    · rw [← hpath, List.flatMap_append, List.flatMap_append]
      exact List.infix_append _ _ _
    · rw [flatMap_utf8EncodeChar hlt]
      intro byte hb
      obtain ⟨c, hc, rfl⟩ := List.mem_map.mp hb
      exact (isHexByte_ofNat_iff (hlt c hc)).mpr (hhex c hc)
    · rwa [flatMap_utf8EncodeChar hlt, List.length_map]

/-! ### The scan -/

lemma hasRun_zero (bytes : List UInt8) : HasRun 0 bytes :=
  ⟨[], List.nil_infix, by simp, Nat.zero_le _⟩

lemma hasHexRun_of_le {short long : Nat} {path : List Char} (hle : short ≤ long)
    (h : hasHexRun long path = true) : hasHexRun short path = true := by
  obtain ⟨run, hpath, hhex, hlen⟩ := hasHexRun_iff.mp h
  exact hasHexRun_iff.mpr ⟨run, hpath, hhex, by omega⟩

lemma hasHexRun_append {length : Nat} {path : List Char} (front back : List Char)
    (h : hasHexRun length path = true) : hasHexRun length (front ++ path ++ back) = true := by
  obtain ⟨run, hpath, hhex, hlen⟩ := hasHexRun_iff.mp h
  exact hasHexRun_iff.mpr ⟨run, hpath.trans (List.infix_append _ _ _), hhex, hlen⟩

/-- **The scan for a run finds the runs that have the length and are not empty.** So it finds what
there is exactly if the length is not zero, or the path has any hexadecimal digit or hyphen. A path
that has a run has the shorter ones too, and keeps it whatever is put before it and behind it. -/
theorem hasHexRun_iff_hasRun (length : Nat) (path : String) :
    (hasHexRun length path.toList = true ↔ HasRun (max length 1) (encode path)) ∧
    ((hasHexRun length path.toList = true ↔ HasRun length (encode path)) ↔
      0 < length ∨ HasRun 1 (encode path)) ∧
    (hasHexRun length path.toList = true →
      ∀ short ≤ length, hasHexRun short path.toList = true) ∧
    (hasHexRun length path.toList = true →
      ∀ front back : String, hasHexRun length (front ++ path ++ back).toList = true) := by
  have hfound : hasHexRun length path.toList = true ↔ HasRun (max length 1) (encode path) := by
    rw [hasHexRun_iff, hasRun_encode_iff]
  refine ⟨hfound, ?_, fun h short hle => hasHexRun_of_le hle h, fun h front back => ?_⟩
  · rw [hfound]
    rcases Nat.eq_zero_or_pos length with rfl | hpos
    · simp [hasRun_zero]
    · simp [Nat.max_eq_left hpos, hpos]
  · rw [String.toList_append, String.toList_append]
    exact hasHexRun_append _ _ h

theorem hasHexRun_zero_ne : ¬ (hasHexRun 0 "".toList = true ↔ HasRun 0 (encode "")) := by
  intro h
  exact absurd (h.mpr (hasRun_zero _)) (by decide)

end StablePath
