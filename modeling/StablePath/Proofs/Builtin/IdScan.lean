import Mathlib.Data.List.SplitBy
import StablePath.Proofs.Builtin.IdRuns
import StablePath.Proofs.Rule.Composition

/-!
A scanner for container ids.

The rule for container ids is the same as a scanner that looks at each place for the four formats,
one after the other, and that is let loose on the blocks of hexadecimal digits and hyphens one by
one. All other text it need not look at.
-/

namespace StablePath.Builtin

open Pattern

/-! ### The scanner -/

lemma pos_of_idLength? {text : List Char} {n : Nat} (h : idLength? text = some n) :
    0 < n ∧ n ≤ text.length := by
  obtain ⟨hlen, -, w, hw, hcore⟩ := core_of_idLength? h
  have hle := hw.length_le
  rw [hcore.length_eq, List.length_take] at hle
  omega

/-- Writes a star for each id and copies what is in none, from left to right. -/
def scan (text : List Char) : List Char :=
  match h : idLength? text with
  | some n =>
    have := pos_of_idLength? h
    '*' :: scan (text.drop n)
  | none =>
    match text with
    | [] => []
    | c :: rest => c :: scan rest
termination_by text.length
decreasing_by
  · rw [List.length_drop]
    omega
  · simp

lemma scan_of_id {text : List Char} {n : Nat} (h : idLength? text = some n) :
    scan text = '*' :: scan (text.drop n) := by
  rw [scan]
  split
  next m hm =>
    obtain rfl := Option.some.inj (hm.symm.trans h)
    rfl
  next hnone =>
    rw [hnone] at h
    cases h

lemma scan_of_noId {c : Char} {rest : List Char} (h : idLength? (c :: rest) = none) :
    scan (c :: rest) = c :: scan rest := by
  rw [scan]
  split
  next m hm =>
    rw [hm] at h
    cases h
  · rfl

@[simp] lemma scan_nil : scan [] = [] := by
  rw [scan]
  rfl

lemma sweeps_scan (text : List Char) : Sweeps IsId NoId star text (scan text) := by
  induction text using scan.induct with
  | case1 text n h _ ih =>
    obtain ⟨hid, hne⟩ := isId_of_idLength? h
    rw [scan_of_id h]
    nth_rewrite 1 [← text_take_drop text n]
    exact .hit hid hne ih
  | case2 =>
    rw [scan_nil]
    exact .done
  | case3 c rest h ih =>
    rw [scan_of_noId h]
    exact .skip h ih

/-! ### Block by block -/

/-- Two characters may stand in a container id, or none of the two. -/
def sameKind (c d : Char) : Bool := isHexOrHyphen c == isHexOrHyphen d

/-- Scans a block of hexadecimal digits and hyphens, and keeps everything else. -/
def scanBlock (block : List Char) : List Char :=
  if block.all isHexOrHyphen then scan block else block

/-- The scanner goes on behind a block as if it began there. -/
lemma scan_append {rest : List Char} (hrest : ∀ c ∈ rest.head?, isHexOrHyphen c = false)
    (block : List Char) : scan (block ++ rest) = scan block ++ scan rest := by
  induction block using scan.induct with
  | case1 block n h _ ih =>
    have hsame := idLength?_append hrest block
    obtain ⟨-, hle⟩ := pos_of_idLength? h
    rw [scan_of_id h, scan_of_id (hsame.trans h), List.drop_append_of_le_length hle, ih,
      List.cons_append]
  | case2 => simp
  | case3 c block h ih =>
    have hsame := idLength?_append hrest (c :: block)
    rw [List.cons_append] at hsame ⊢
    rw [scan_of_noId h, scan_of_noId (hsame.trans h), ih, List.cons_append]

lemma scan_append_of_other {other : List Char} (h : ∀ c ∈ other, isHexOrHyphen c = false)
    (rest : List Char) : scan (other ++ rest) = other ++ scan rest := by
  induction other with
  | nil => rfl
  | cons c other ih =>
    obtain ⟨hc, hother⟩ := List.forall_mem_cons.mp h
    have hhead : ∀ d ∈ (c :: (other ++ rest)).head?, isHexOrHyphen d = false := by simpa using hc
    have hnone : idLength? (c :: (other ++ rest)) = none := idLength?_append hhead []
    rw [List.cons_append, scan_of_noId hnone, ih hother, List.cons_append]

lemma sameKind_iff {c d : Char} : sameKind c d = true ↔ isHexOrHyphen c = isHexOrHyphen d :=
  beq_iff_eq

lemma kind_of_isChain {c : Char} {run : List Char}
    (h : (c :: run).IsChain fun d e => sameKind d e = true) :
    ∀ d ∈ c :: run, isHexOrHyphen d = isHexOrHyphen c := by
  induction run generalizing c with
  | nil => simp
  | cons e run ih =>
    obtain ⟨hce, hrun⟩ := List.isChain_cons_cons.mp h
    refine List.forall_mem_cons.mpr ⟨rfl, fun d hd => ?_⟩
    exact (ih hrun d hd).trans (sameKind_iff.mp hce).symm

/-- Runs of one kind each, with no neighbour of the same kind, are scanned one by one. -/
lemma scan_flatten {runs : List (List Char)} (hne : [] ∉ runs)
    (hkind : ∀ run ∈ runs, run.IsChain fun c d => sameKind c d = true)
    (hapart : runs.IsChain fun a b => ∃ ha hb, sameKind (a.getLast ha) (b.head hb) = false) :
    scan runs.flatten = runs.flatMap scanBlock := by
  induction runs with
  | nil => exact scan_nil
  | cons run runs ih =>
    obtain ⟨hrun, hne⟩ := not_or.mp (mt List.mem_cons.mpr hne)
    obtain ⟨hchain, hkind⟩ := List.forall_mem_cons.mp hkind
    have hlater := ih hne hkind hapart.tail
    obtain ⟨c, cs, rfl⟩ := List.exists_cons_of_ne_nil (Ne.symm hrun)
    have hsame := kind_of_isChain hchain
    rw [List.flatten_cons, List.flatMap_cons, ← hlater]
    cases hc : isHexOrHyphen c with
    | false =>
      have hblock : scanBlock (c :: cs) = c :: cs := by simp [scanBlock, hc]
      rw [hblock]
      exact scan_append_of_other (fun d hd => (hsame d hd).trans hc) _
    | true =>
      have hblock : scanBlock (c :: cs) = scan (c :: cs) :=
        if_pos (List.all_eq_true.mpr fun d hd => (hsame d hd).trans hc)
      rw [hblock]
      -- what follows a block is of the other kind
      refine scan_append (fun d hd => ?_) _
      cases runs with
      | nil => cases hd
      | cons next runs =>
        obtain ⟨hlast, hnext, hdiffer⟩ := (List.isChain_cons_cons.mp hapart).1
        obtain ⟨e, es, rfl⟩ := List.exists_cons_of_ne_nil hnext
        obtain rfl : e = d := by simpa using hd
        have hlast' := (hsame _ (List.getLast_mem hlast)).trans hc
        simpa [sameKind, hlast'] using hdiffer

lemma scan_eq_flatMap (path : List Char) :
    scan path = (path.splitBy sameKind).flatMap scanBlock := by
  have h := scan_flatten (List.nil_notMem_splitBy sameKind path)
    (fun run hrun => List.isChain_of_mem_splitBy hrun)
    (List.isChain_getLast_head_splitBy sameKind path)
  rwa [List.flatten_splitBy] at h

/-! ### The formats -/

/-- The formats of container ids: a run of digits that is long enough, but not too long for one id,
digits with a number behind them, and groups of digits. -/
inductive IdFormat : List Char → Prop
  | run {digits : List Char} (hex : ∀ c ∈ digits, isHex c = true) (long : 28 ≤ digits.length)
      (short : digits.length ≤ 64) : IdFormat digits
  | numbered {digits number : List Char} (hex : ∀ c ∈ digits, isHex c = true)
      (length : digits.length = 32) (ne : number ≠ []) (decimal : ∀ c ∈ number, c.isDigit = true) :
      IdFormat (digits ++ '-' :: number)
  | groups {id : List Char} (groups : HexGroups idGroups id) : IdFormat id

lemma chars_of_format {id : List Char} (h : IdFormat id) : ∀ c ∈ id, isHexOrHyphen c = true := by
  cases h with
  | run hex => exact fun c hc => isHexOrHyphen_iff.mpr (Or.inl (hex c hc))
  | numbered hex _ _ decimal =>
    refine List.forall_mem_append.mpr ⟨?_, List.forall_mem_cons.mpr ⟨by decide, ?_⟩⟩
    · exact fun c hc => isHexOrHyphen_iff.mpr (Or.inl (hex c hc))
    · exact fun c hc => by simp [isHexOrHyphen, decimal c hc]
  | groups groups => exact groups.chars

lemma runLength_isHex_hyphen {digits : List Char} (hex : ∀ c ∈ digits, isHex c = true)
    (rest : List Char) : runLength isHex (digits ++ '-' :: rest) = digits.length := by
  rw [runLength_append (by simp [not_isHex_hyphen]), runLength_of_all hex]

/-- In each of the formats there is an id, and it takes all of the text. -/
lemma idLength?_of_format {id : List Char} (h : IdFormat id) : idLength? id = some id.length := by
  cases h with
  | run hex long short =>
    rw [idLength?_of_hex hex, if_pos long]
    split_ifs with hfull
    · rw [Nat.le_antisymm short hfull]
    · rfl
  | @numbered digits number hex length ne decimal =>
    have hdigits : runLength isHex (digits ++ '-' :: number) = 32 :=
      (runLength_isHex_hyphen hex number).trans length
    have hhyphen : (digits ++ '-' :: number)[32]? = some '-' := by
      rw [List.getElem?_append_right length.le, length]
      rfl
    have hdrop : (digits ++ '-' :: number).drop 33 = number := by
      rw [show 33 = digits.length + 1 by omega, List.drop_length_add_append]
      rfl
    have hnumber : 1 ≤ number.length := List.length_pos_iff.mpr ne
    unfold idLength?
    dsimp only
    rw [hdigits, hdrop, runLength_of_all decimal, if_neg (by decide),
      if_pos ⟨le_rfl, hhyphen, hnumber⟩]
    simp [length]
    omega
  | groups groups =>
    have hstart : startsWithGroups idGroups id = true :=
      startsWithGroups_iff.mpr ⟨id, List.prefix_rfl, groups⟩
    have hlength : id.length = 28 := groups.length_eq
    obtain ⟨a, b, rfl, ⟨ha, hex⟩, -⟩ := groups
    have hdigits : runLength isHex (a ++ '-' :: b) = 8 := (runLength_isHex_hyphen hex b).trans ha
    unfold idLength?
    dsimp only
    rw [hdigits, if_neg (by decide), if_neg fun h => absurd h.1 (by decide), if_pos hstart, hlength]

lemma scanBlock_of_format {id : List Char} (h : IdFormat id) : scanBlock id = ['*'] := by
  unfold scanBlock
  rw [if_pos (List.all_eq_true.mpr (chars_of_format h)), scan_of_id (idLength?_of_format h),
    List.drop_length, scan_nil]

/-- **The rule for container ids is a scanner.** Alone it reduces every path, whatever is known of
the file. It takes the blocks of hexadecimal digits and hyphens one by one, scans each of them from
left to right for the formats in their order, and copies everything else. Of a block that has one of
the formats only a star is left. -/
theorem containerId_scans : ∃ rule, containerId = .ok rule ∧
    (∀ sighting path, ∃ reduction,
      (⟨[rule]⟩ : Ruleset).reduce? sighting path = some reduction ∧
      reduction.path = (path.splitBy sameKind).flatMap scanBlock) ∧
    ∀ id, IdFormat id → scanBlock id = ['*'] := by
  obtain ⟨rule, hrule, hmade⟩ := exists_containerId
  refine ⟨rule, hrule, fun sighting path => ?_, fun id => scanBlock_of_format⟩
  obtain ⟨reduction, hreduce, hsweeps, -⟩ := reduces_containerId hmade sighting path
  refine ⟨reduction, by rw [Ruleset.reduce?_one, hreduce], ?_⟩
  exact ((hsweeps trivial).unique exact_id (sweeps_scan path)).trans (scan_eq_flatMap path)

end StablePath.Builtin
