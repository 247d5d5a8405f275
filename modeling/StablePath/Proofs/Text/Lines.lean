import Mathlib.Data.List.Basic
import StablePath.Text.Basic

/-!
Lines of encoded texts.

A stream is cut at its line feeds. A text is encoded character by character, and a byte below 128
stands in the encoding of one character only, the one with its number. So the bytes at which a
stream is cut are characters of the texts in it, and texts that are written one per line are read
again.
-/

namespace StablePath.Text

/-! ### Encoded texts -/

/-- The bytes that encode a text. -/
def encode (text : String) : List UInt8 := text.toUTF8.data.toList

/-- Reading is the converse of encoding. -/
lemma decode?_eq_some {bytes : List UInt8} {text : String} :
    decode? bytes = some text ↔ encode text = bytes := by
  unfold decode? String.fromUTF8?
  constructor
  · intro h
    split_ifs at h with hvalid
    rw [← Option.some.inj h]
    rfl
  · rintro rfl
    exact dif_pos text.isValidUTF8

lemma decode?_eq_none {bytes : List UInt8} :
    decode? bytes = none ↔ ∀ text, encode text ≠ bytes := by
  simp only [Option.eq_none_iff_forall_ne_some, ne_eq, decode?_eq_some]

lemma encode_injective : Function.Injective encode := fun _ _ h =>
  Option.some.inj ((decode?_eq_some.mpr h).symm.trans (decode?_eq_some.mpr rfl))

lemma encode_eq (text : String) : encode text = text.toList.flatMap String.utf8EncodeChar := by
  have hbytes : text.toUTF8 = (text.toList.flatMap String.utf8EncodeChar).toByteArray :=
    String.utf8Encode_toList.symm
  rw [encode, hbytes, List.data_toByteArray]

/-- A character is encoded by one byte with its number, or by bytes that are no such numbers. -/
lemma utf8EncodeChar_cases (c : Char) :
    (c.toNat < 128 ∧ String.utf8EncodeChar c = [UInt8.ofNat c.toNat]) ∨
      (128 ≤ c.toNat ∧ ∀ byte ∈ String.utf8EncodeChar c, 128 ≤ byte.toNat) := by
  have hnat : c.val.toNat = c.toNat := rfl
  unfold String.utf8EncodeChar
  rw [hnat]
  dsimp only
  split_ifs with hone htwo hthree
  · exact Or.inl ⟨by omega, rfl⟩
  all_goals
    refine Or.inr ⟨by omega, ?_⟩
    simp only [List.forall_mem_cons, List.not_mem_nil, false_imp_iff, implies_true, and_true,
      UInt8.toNat_ofNat']
    omega

section

variable {c d : Char} (hc : c.toNat < 128)

include hc

lemma mem_utf8EncodeChar : UInt8.ofNat c.toNat ∈ String.utf8EncodeChar d ↔ d = c := by
  have hnat : (UInt8.ofNat c.toNat).toNat = c.toNat := by
    rw [UInt8.toNat_ofNat', Nat.mod_eq_of_lt (by omega)]
  constructor
  · intro hmem
    rcases utf8EncodeChar_cases d with ⟨hd, hone⟩ | ⟨-, hmany⟩
    · rw [hone, List.mem_singleton] at hmem
      have hsame := congrArg UInt8.toNat hmem
      rw [hnat, UInt8.toNat_ofNat', Nat.mod_eq_of_lt (by omega)] at hsame
      exact (Char.toNat_inj.mp hsame).symm
    · have hlarge := hmany _ hmem
      omega
  · rintro rfl
    rcases utf8EncodeChar_cases d with ⟨-, hone⟩ | ⟨hlarge, -⟩
    · rw [hone]
      exact List.mem_singleton_self _
    · omega

lemma mem_encode {text : String} : UInt8.ofNat c.toNat ∈ encode text ↔ c ∈ text.toList := by
  simp only [encode_eq, List.mem_flatMap, mem_utf8EncodeChar hc, exists_eq_right]

lemma getLast?_encode {text : String} (h : text.toList.getLast? ≠ some c) :
    (encode text).getLast? ≠ some (UInt8.ofNat c.toNat) := by
  rw [encode_eq]
  rcases List.eq_nil_or_concat' text.toList with hnil | ⟨front, last, hlast⟩
  · simp [hnil]
  · rw [hlast, List.getLast?_concat] at h
    have hne : String.utf8EncodeChar last ≠ [] := by simp
    rw [hlast, List.flatMap_append, List.flatMap_singleton, List.getLast?_append_of_ne_nil _ hne]
    intro hend
    exact h (congrArg some ((mem_utf8EncodeChar hc).mp (List.mem_of_getLast? hend)))

end

/-! ### Cutting a stream -/

/-- How a stream is cut into lines. A line ends before a line feed, or before a carriage return that
a line feed follows. What is left behind the last line feed is a line too, unless it is empty. -/
inductive Cut : List UInt8 → List (List UInt8) → Prop
  | done : Cut [] []
  | tail {line : List UInt8} (hne : line ≠ []) (hline : 0x0A ∉ line) : Cut line [line]
  | feed {line rest : List UInt8} {more : List (List UInt8)} (hline : 0x0A ∉ line)
      (hreturn : line.getLast? ≠ some 0x0D) (hrest : Cut rest more) :
      Cut (line ++ 0x0A :: rest) (line :: more)
  | returnFeed {line rest : List UInt8} {more : List (List UInt8)} (hline : 0x0A ∉ line)
      (hrest : Cut rest more) : Cut (line ++ 0x0D :: 0x0A :: rest) (line :: more)

variable {bytes line : List UInt8} {cut : List (List UInt8)}

lemma linesAfter_append (h : 0x0A ∉ line) (read rest : List UInt8) :
    linesAfter read (line ++ rest) = linesAfter (line.reverse ++ read) rest := by
  induction line generalizing read with
  | nil => rfl
  | cons byte line ih =>
    obtain ⟨hbyte, hline⟩ := not_or.mp (mt List.mem_cons.mpr h)
    rw [List.cons_append, linesAfter, if_neg (Ne.symm hbyte), ih hline, List.reverse_cons,
      List.append_assoc, List.singleton_append]

lemma lines_of_not_mem (h : 0x0A ∉ line) : lines line = if line = [] then [] else [line] := by
  have hread := linesAfter_append h [] []
  rw [List.append_nil, List.append_nil] at hread
  rw [lines, hread, linesAfter, List.reverse_reverse]
  simp

lemma lines_append (h : 0x0A ∉ line) (rest : List UInt8) :
    lines (line ++ 0x0A :: rest) = dropReturn line :: lines rest := by
  rw [lines, linesAfter_append h, linesAfter, if_pos rfl, List.append_nil, List.reverse_reverse,
    lines]

/-- Every stream can be cut: at its first line feed, and then what is behind it. -/
lemma exists_cut (bytes : List UInt8) : ∃ cut, Cut bytes cut := by
  induction hn : bytes.length using Nat.strongRecOn generalizing bytes with
  | ind n ih =>
    by_cases hfeed : 0x0A ∈ bytes
    · obtain ⟨line, rest, rfl, hline⟩ := List.eq_append_cons_of_mem hfeed
      have hlt : rest.length < n := by
        rw [← hn, List.length_append, List.length_cons]
        omega
      obtain ⟨more, hmore⟩ := ih _ hlt rest rfl
      by_cases hreturn : line.getLast? = some 0x0D
      · obtain ⟨front, rfl⟩ := List.getLast?_eq_some_iff.mp hreturn
        rw [List.append_assoc, List.singleton_append]
        exact ⟨_, .returnFeed (fun hmem => hline (List.mem_append_left _ hmem)) hmore⟩
      · exact ⟨_, .feed hline hreturn hmore⟩
    · by_cases hne : bytes = []
      · subst hne
        exact ⟨_, .done⟩
      · exact ⟨_, .tail hne hfeed⟩

lemma Cut.lines_eq (h : Cut bytes cut) : lines bytes = cut := by
  induction h with
  | done => rfl
  | tail hne hline => rw [lines_of_not_mem hline, if_neg hne]
  | feed hline hreturn _ ih => rw [lines_append hline, ih, dropReturn, if_neg hreturn]
  | @returnFeed line rest more hline _ ih =>
    have hend : 0x0A ∉ line ++ [0x0D] := by simp [hline]
    rw [← List.singleton_append, ← List.append_assoc, lines_append hend, ih, dropReturn,
      if_pos (by simp), List.dropLast_concat]

/-! ### One text per line -/

/-- Texts, each with a line feed. -/
def encodeLines (texts : List String) : List UInt8 :=
  texts.flatMap fun text => encode text ++ [0x0A]

/-- A text that stands on a line of its own. -/
def IsLine (text : String) : Prop := '\n' ∉ text.toList ∧ text.toList.getLast? ≠ some '\r'

instance (text : String) : Decidable (IsLine text) := inferInstanceAs (Decidable (_ ∧ _))

/-- Texts that are written one per line are cut into the same texts again. -/
lemma cut_encodeLines {texts : List String} (h : ∀ text ∈ texts, IsLine text) :
    Cut (encodeLines texts) (texts.map encode) := by
  induction texts with
  | nil => exact .done
  | cons text texts ih =>
    obtain ⟨⟨hfeed, hreturn⟩, htexts⟩ := List.forall_mem_cons.mp h
    have hline : 0x0A ∉ encode text := mt (mem_encode (by decide : '\n'.toNat < 128)).mp hfeed
    have hend : (encode text).getLast? ≠ some 0x0D :=
      getLast?_encode (by decide : '\r'.toNat < 128) hreturn
    rw [encodeLines, List.flatMap_cons, List.append_assoc, List.singleton_append]
    exact .feed hline hend (ih htexts)

/-- Lines encode texts, to the end or up to the first that encodes none. -/
lemma exists_decoded (cut : List (List UInt8)) : ∃ texts : List String,
    cut = texts.map encode ∨
      ∃ bad rest, cut = texts.map encode ++ bad :: rest ∧ ∀ text, encode text ≠ bad := by
  induction cut with
  | nil => exact ⟨[], Or.inl rfl⟩
  | cons line cut ih =>
    by_cases hline : ∃ text, encode text = line
    · obtain ⟨text, rfl⟩ := hline
      obtain ⟨texts, rfl | ⟨bad, rest, rfl, hbad⟩⟩ := ih
      · exact ⟨text :: texts, Or.inl rfl⟩
      · exact ⟨text :: texts, Or.inr ⟨bad, rest, rfl, hbad⟩⟩
    · exact ⟨[], Or.inr ⟨line, cut, rfl, not_exists.mp hline⟩⟩

end StablePath.Text
