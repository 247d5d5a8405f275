import Mathlib.Data.List.Induction
import Mathlib.Data.Nat.Digits.Defs
import StablePath.Proofs.Pattern.Order
import StablePath.Ruleset

/-!
What one rule does to a path.

The edits of a rule go from the last match to the first and cut the path as it is by then at
offsets that were found in the path as it was. Left of an edit nothing has changed yet, so the
outcome is the same as if all spans were written over at once.
-/

namespace StablePath

open Text

/-! ### Writing over spans -/

/-- `out` is a text that begins at a byte offset, with every span written over as `R` says and all
else kept. -/
inductive Overwrites (R : List Char → List Char → Prop) :
    (offset : Nat) → (spans : List (Nat × Nat)) → (text out : List Char) → Prop
  | rest (offset : Nat) (text : List Char) : Overwrites R offset [] text text
  | span {offset : Nat} {spans : List (Nat × Nat)} {text out : List Char}
      (kept old new : List Char) (write : R old new)
      (later : Overwrites R (offset + width kept + width old) spans text out) :
      Overwrites R offset ((offset + width kept, offset + width kept + width old) :: spans)
        (kept ++ old ++ text) (kept ++ new ++ out)

namespace Overwrites

variable {R S : List Char → List Char → Prop} {offset : Nat} {spans : List (Nat × Nat)}
  {text out : List Char}

lemma keep (s : List Char) (h : Overwrites R (offset + width s) spans text out) :
    Overwrites R offset spans (s ++ text) (s ++ out) := by
  cases h with
  | rest => exact .rest _ _
  | span kept old new write later =>
    have hwidth : offset + width s + width kept = offset + width (s ++ kept) := by
      rw [width_append, Nat.add_assoc]
    rw [hwidth] at later ⊢
    simpa using Overwrites.span (s ++ kept) old new write later

lemma mono (hRS : ∀ old new, R old new → S old new) (h : Overwrites R offset spans text out) :
    Overwrites S offset spans text out := by
  induction h with
  | rest => exact .rest _ _
  | span kept old new write _ ih => exact .span kept old new (hRS _ _ write) ih

end Overwrites

/-! ### What an edit writes -/

/-- The number that a text of decimal digits writes. -/
def decimal (digits : List Char) : Nat :=
  Nat.ofDigits 10 (digits.reverse.map fun c => c.toNat - '0'.toNat)

/-- A text is a decimal numeral of a number, with a plus sign or without. -/
def IsNumeral (text : List Char) (n : Nat) : Prop :=
  ∃ digits, (text = digits ∨ text = '+' :: digits) ∧ digits ≠ [] ∧
    (∀ c ∈ digits, c.isDigit = true) ∧ decimal digits = n

/-- What stands for the text of a group after an edit, for a process with the number `self`. -/
inductive Edit.Writes (self : UInt32) : Edit → (old new : List Char) → Prop
  | literal (group : Nat) (replacement : String) (old : List Char) :
      Writes self (.literal group replacement) old replacement.toList
  | self (group : Nat) {old : List Char} (h : IsNumeral old self.toNat) :
      Writes self (.pid group) old ['s', 'e', 'l', 'f']
  | other (group : Nat) {old : List Char} {n : Nat} (h : IsNumeral old n) (hn : n < 2 ^ 32)
      (hne : n ≠ self.toNat) : Writes self (.pid group) old ['*']
  | unread (group : Nat) {old : List Char} (h : ∀ n < 2 ^ 32, ¬ IsNumeral old n) :
      Writes self (.pid group) old old

lemma digitValue?_of_isDigit {c : Char} (h : c.isDigit = true) :
    (Text.digitValue? c).getD 0 = c.toNat - '0'.toNat := by
  unfold Text.digitValue?
  rw [if_pos]
  · rfl
  · simpa [Char.isDigit, Char.le_def] using h

lemma numeral_eq_decimal {digits : List Char} (h : ∀ c ∈ digits, c.isDigit = true) :
    Text.numeral 10 digits = decimal digits := by
  unfold Text.numeral decimal
  induction digits using List.reverseRecOn with
  | nil => rfl
  | append_singleton digits c ih =>
    have hc := digitValue?_of_isDigit (h c (by simp))
    rw [List.foldl_append, ih fun d hd => h d (by simp [hd])]
    simp [hc, Nat.ofDigits_cons, Nat.mul_comm, Nat.add_comm]

/-- A text without a plus sign in front. -/
def unsigned : List Char → List Char
  | '+' :: rest => rest
  | text => text

lemma isNumeral_iff {text : List Char} {n : Nat} :
    IsNumeral text n ↔ unsigned text ≠ [] ∧ (∀ c ∈ unsigned text, c.isDigit = true) ∧
      decimal (unsigned text) = n := by
  fun_cases unsigned text with
  | case1 rest =>
    constructor
    · rintro ⟨digits, rfl | heq, h⟩
      · exact absurd (h.2.1 '+' List.mem_cons_self) (by decide)
      · obtain ⟨-, rfl⟩ := List.cons.inj heq
        exact h
    · exact fun h => ⟨rest, Or.inr rfl, h⟩
  | case2 text hno =>
    constructor
    · rintro ⟨digits, rfl | heq, h⟩
      · exact h
      · exact absurd heq (hno digits)
    · exact fun h => ⟨text, Or.inl rfl, h⟩

lemma readPid?_eq_some_iff {text : List Char} {n : Nat} :
    readPid? text = some n ↔ IsNumeral text n ∧ n < 2 ^ 32 := by
  -- one sign may precede the digits
  have hread : readPid? text =
      if (unsigned text).isEmpty || !(unsigned text).all Char.isDigit then none
      else if Text.numeral 10 (unsigned text) < 2 ^ 32 then some (Text.numeral 10 (unsigned text))
        else none := by
    unfold readPid?
    fun_cases unsigned text with
    | case1 rest => rfl
    | case2 text hno =>
      split
      · exact absurd rfl (hno _)
      · rfl
  rw [hread, isNumeral_iff]
  by_cases hd : unsigned text ≠ [] ∧ ∀ c ∈ unsigned text, c.isDigit = true
  · rw [if_neg (by simpa using hd), numeral_eq_decimal hd.2, Option.ite_none_right_eq_some]
    constructor
    · rintro ⟨hlt, hval⟩
      obtain rfl := Option.some.inj hval
      exact ⟨⟨hd.1, hd.2, rfl⟩, hlt⟩
    · rintro ⟨⟨-, -, rfl⟩, hlt⟩
      exact ⟨hlt, rfl⟩
  · rw [if_pos (by simpa [Classical.or_iff_not_imp_left] using hd)]
    constructor
    · intro h
      cases h
    · rintro ⟨⟨hne, hall, -⟩, -⟩
      exact absurd ⟨hne, hall⟩ hd

/-- What an edit writes over a text. -/
def Edit.replacement (self : UInt32) : Edit → List Char → List Char
  | .literal _ replacement, _ => replacement.toList
  | .pid _, old =>
    match readPid? old with
    | some n => Edit.pidText self n
    | none => old

lemma Edit.writes_replacement (self : UInt32) (edit : Edit) (old : List Char) :
    edit.Writes self old (edit.replacement self old) := by
  cases edit with
  | literal group replacement => exact .literal group replacement old
  | pid group =>
    unfold Edit.replacement
    dsimp only
    split
    next n hread =>
      obtain ⟨hnum, hlt⟩ := readPid?_eq_some_iff.mp hread
      unfold Edit.pidText
      split_ifs with hself
      · exact .self group (hself ▸ hnum)
      · exact .other group hnum hlt hself
    next hread =>
      refine .unread group fun n hlt hnum => ?_
      rw [readPid?_eq_some_iff.mpr ⟨hnum, hlt⟩] at hread
      cases hread

/-! ### One edit -/

lemma slice?_append (left middle right : List Char) :
    slice? (width left) (width left + width middle) (left ++ middle ++ right) = some middle := by
  unfold slice?
  rw [List.append_assoc, splitAt?_width]
  have hle : width left ≤ width left + width middle := Nat.le_add_right _ _
  simp [hle, splitAt?_width, guard]

lemma splice?_append (left middle right new : List Char) :
    splice? (width left) (width left + width middle) new (left ++ middle ++ right) =
      some (left ++ new ++ right) := by
  unfold splice?
  rw [← width_append, splitAt?_width, List.append_assoc left middle right, splitAt?_width]
  rfl

/-- An edit of a group writes over its text. -/
lemma Edit.perform?_eq {edit : Edit} {draft : Draft} {left old right : List Char}
    (hpath : draft.path = left ++ old ++ right)
    (hgroup : draft.group edit.group = some (width left, width left + width old)) :
    edit.perform? draft = some { draft with
      path := left ++ edit.replacement draft.sighting.pid old ++ right } := by
  obtain ⟨path, groups, sighting⟩ := draft
  obtain rfl : path = left ++ old ++ right := hpath
  unfold Edit.perform?
  rw [hgroup]
  cases edit with
  | literal group replacement =>
    simp only [Draft.replace?, splice?_append]
    rfl
  | pid group =>
    simp only [slice?_append, Option.bind_eq_bind, Option.bind_some, Edit.replacement]
    cases readPid? old with
    | none => rfl
    | some n =>
      simp only [Draft.replace?, splice?_append]
      rfl

/-- An edit of a group that took no part in the match leaves everything as it is. -/
lemma Edit.perform?_of_none {edit : Edit} {draft : Draft} (h : draft.group edit.group = none) :
    edit.perform? draft = some draft := by
  unfold Edit.perform?
  rw [h]

/-! ### All edits of a rule -/

namespace Rule

/-- The spans that a rule writes over: where its group is in the matches that it takes part in. -/
def spans (rule : Rule) (found : List Pattern.Groups) : List (Nat × Nat) :=
  found.filterMap fun groups => (groups[rule.edit.group]?).join

/-- Left of the matches that have been edited, the draft is still the path. -/
lemma editAll?_eq (rule : Rule) {found : List Pattern.Groups} {offset : Nat}
    {text : List Char} (h : Pattern.InOrder offset text found) {draft : Draft} {left : List Char}
    (hoffset : offset = width left) (hpath : draft.path = left ++ text) :
    ∃ edited out, rule.editAll? found draft = some edited ∧ edited.path = left ++ out ∧
      edited.sighting = draft.sighting ∧
      Overwrites (fun old new => new = rule.edit.replacement draft.sighting.pid old) offset
        (rule.spans found) text out := by
  induction h generalizing left with
  | nil offset text => exact ⟨draft, text, rfl, hpath, rfl, .rest _ _⟩
  | @cons offset text groups more skipped used rest split whole inside later ih =>
    -- the later matches are edited before this one
    have hleft : offset + width skipped + width used = width (left ++ skipped ++ used) := by
      simp [hoffset, Nat.add_assoc]
    obtain ⟨edited, out, hedited, hout, hsighting, hover⟩ := ih hleft (by simp [hpath, split])
    have hstep : rule.editAll? (groups :: more) draft =
        rule.edit.perform? { edited with groups } := by
      unfold editAll? at hedited ⊢
      rw [List.foldrM_cons, hedited]
      rfl
    rw [hstep]
    cases hgroup : ({ edited with groups } : Draft).group rule.edit.group with
    | none =>
      refine ⟨_, skipped ++ used ++ out, Edit.perform?_of_none hgroup, by simp [hout], hsighting, ?_⟩
      have hspans : rule.spans (groups :: more) = rule.spans more :=
        List.filterMap_cons_none hgroup
      rw [hspans, split]
      exact Overwrites.keep _ (by simpa [Nat.add_assoc] using hover)
    | some span =>
      obtain ⟨a, b⟩ := span
      obtain ⟨x, old, z, rfl, ha, hb⟩ := inside _ a b (Option.join_eq_some_iff.mp hgroup)
      have hstart : a = width (left ++ skipped ++ x) := by simp [ha, hoffset, Nat.add_assoc]
      have hcut : ({ edited with groups } : Draft).path =
          left ++ skipped ++ x ++ old ++ (z ++ out) := by simp [hout]
      have hperform := Edit.perform?_eq hcut (by rw [hgroup, ← hstart, hb])
      have hspans : rule.spans (groups :: more) = (a, b) :: rule.spans more :=
        List.filterMap_cons_some hgroup
      have ha' : a = offset + width (skipped ++ x) := by rw [ha, width_append, Nat.add_assoc]
      have hlater := Overwrites.span (R := fun old new =>
        new = rule.edit.replacement draft.sighting.pid old) (skipped ++ x) old _ rfl
        (Overwrites.keep z (by simpa [Nat.add_assoc] using hover))
      rw [← ha', ← hb, ← hspans] at hlater
      refine ⟨_, skipped ++ x ++ rule.edit.replacement draft.sighting.pid old ++ (z ++ out),
        hperform, ?_, hsighting, ?_⟩
      · simp [hsighting]
      · rw [split]
        simpa using hlater

/-- A rule that is a candidate writes over the spans of its group. -/
lemma reduce?_eq {rule : Rule} {sighting : Sighting} {path : List Char}
    (h : rule.isCandidate path sighting.filesystem = true) :
    ∃ reduction, rule.reduce? sighting path = some reduction ∧
      Overwrites (fun old new => new = rule.edit.replacement sighting.pid old) 0
        (rule.spans (rule.matchesIn path)) path reduction.path := by
  obtain ⟨edited, out, hedited, hout, -, hover⟩ := rule.editAll?_eq
    (Pattern.inOrder_matchesIn rule.pattern path) (show 0 = width [] from rfl)
    (show (⟨path, [], sighting⟩ : Draft).path = [] ++ path from rfl)
  unfold reduce?
  rw [if_pos h]
  split
  next hnone =>
    rw [hnone]
    exact ⟨_, rfl, .rest _ _⟩
  next =>
    rw [show rule.editAll? (rule.matchesIn path) ⟨path, [], sighting⟩ = some edited from hedited]
    obtain rfl : edited.path = out := hout
    exact ⟨_, rfl, hover⟩

lemma reduce?_of_not_candidate {rule : Rule} {sighting : Sighting} {path : List Char}
    (h : rule.isCandidate path sighting.filesystem = false) :
    rule.reduce? sighting path = some ⟨path, false⟩ := by
  simp [reduce?, h]

end Rule

/-- **Splicing from right to left is writing over all spans at once.** A single rule of any kind
reduces every path. If it is no candidate or finds nothing, the path stays; otherwise what its
edit writes stands for each text of its group, and all other text is kept. -/
theorem reduce?_singleton (rule : Rule) (sighting : Sighting) (path : List Char) :
    ∃ reduction, (⟨[rule]⟩ : Ruleset).reduce? sighting path = some reduction ∧
      (rule.isCandidate path sighting.filesystem = false ∨ rule.matchesIn path = [] →
        reduction.path = path) ∧
      (rule.isCandidate path sighting.filesystem = true →
        Overwrites (rule.edit.Writes sighting.pid) 0 (rule.spans (rule.matchesIn path)) path
          reduction.path) := by
  have hsingle : ∀ reduction, rule.reduce? sighting path = some reduction →
      (⟨[rule]⟩ : Ruleset).reduce? sighting path = some reduction := by
    intro reduction h
    simp [Ruleset.reduce?, h]
  cases hc : rule.isCandidate path sighting.filesystem with
  | false =>
    refine ⟨_, hsingle _ (Rule.reduce?_of_not_candidate hc), fun _ => rfl, fun h => ?_⟩
    cases h
  | true =>
    obtain ⟨reduction, hreduce, hover⟩ := Rule.reduce?_eq hc
    refine ⟨reduction, hsingle _ hreduce, fun h => ?_, fun _ => ?_⟩
    · rcases h with h | h
      · cases h
      · rw [h] at hover
        cases hover
        rfl
    · refine hover.mono fun old new hnew => ?_
      rw [hnew]
      exact rule.edit.writes_replacement sighting.pid old

end StablePath
