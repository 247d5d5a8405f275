import Mathlib.Data.Option.Basic
import StablePath.Proofs.Pattern.Brackets

/-!
The matches in a text, from left to right.
-/

namespace StablePath.Pattern

open Text

/-- Matches in a text that begins at a byte offset. Each takes a part of the text that begins no
sooner than the part before it ends, and its groups lie in this part. -/
inductive InOrder : (offset : Nat) → (text : List Char) → List Groups → Prop
  | nil (offset : Nat) (text : List Char) : InOrder offset text []
  | cons {offset : Nat} {text : List Char} {groups : Groups} {more : List Groups}
      (skipped used rest : List Char) (split : text = skipped ++ used ++ rest)
      (whole : groups[0]? =
        some (some (offset + width skipped, offset + width skipped + width used)))
      (inside : ∀ g a b : Nat, groups[g]? = some (some (a, b)) → ∃ x y z, used = x ++ y ++ z ∧
        a = offset + width skipped + width x ∧ b = a + width y)
      (later : InOrder (offset + width skipped + width used) rest more) :
      InOrder offset text (groups :: more)

lemma InOrder.skip {offset : Nat} {s text : List Char} {found : List Groups}
    (h : InOrder (offset + width s) text found) : InOrder offset (s ++ text) found := by
  cases h with
  | nil => exact .nil _ _
  | cons skipped used rest split whole inside later =>
    have hwidth : offset + width (s ++ skipped) = offset + width s + width skipped := by
      rw [width_append, Nat.add_assoc]
    refine .cons (s ++ skipped) used rest (by simp [split]) ?_ ?_ ?_
    all_goals rwa [hwidth]

/-- The groups of a term in a trail. -/
def Term.groupsIn (t : Term) (trail : Trail) : Groups :=
  (List.range (t.lastGroup + 1)).map fun g => trail.span g

lemma Term.groupsIn_eq_some {t : Term} {trail : Trail} {g : Nat} {span : Nat × Nat}
    (h : (t.groupsIn trail)[g]? = some (some span)) : trail.span g = some span := by
  unfold Term.groupsIn at h
  rw [List.getElem?_map, Option.map_eq_some_iff] at h
  obtain ⟨n, hn, hspan⟩ := h
  obtain ⟨hlt, -⟩ := List.getElem?_eq_some_iff.mp hn
  rw [List.getElem?_range (by simpa using hlt)] at hn
  rwa [Option.some.inj hn]

lemma Term.groupsIn_zero (t : Term) (trail : Trail) :
    (t.groupsIn trail)[0]? = some (trail.span 0) := by
  simp [Term.groupsIn]

variable {t : Term} {last : Option Nat} {before : Option Char} {offset : Nat} {text : List Char}

/-- What `matchesFrom` looks for at one place. -/
def Term.found? (t : Term) (last : Option Nat) (before : Option Char) (offset : Nat)
    (text : List Char) : Option (Trail × Nat) := do
  guard (last.all (· ≤ offset))
  let trail ← t.matchAt? before offset text
  let stop ← trail.lastClosed 0
  guard (stop ≠ offset ∨ last ≠ some offset)
  return (trail, stop)

/-- The matches that begin after one place of a text. -/
def Term.matchesAfter (t : Term) (last : Option Nat) (offset : Nat) : List Char → List Trail
  | [] => []
  | c :: rest => t.matchesFrom last (some c) (offset + c.utf8Size) rest

lemma Term.matchesFrom_of_found {trail : Trail} {stop : Nat}
    (h : t.found? last before offset text = some (trail, stop)) :
    t.matchesFrom last before offset text = trail :: t.matchesAfter (some stop) offset text := by
  unfold Term.found? at h
  cases text <;>
  · rw [Term.matchesFrom, h]
    rfl

lemma Term.matchesFrom_of_not_found (h : t.found? last before offset text = none) :
    t.matchesFrom last before offset text = t.matchesAfter last offset text := by
  unfold Term.found? at h
  cases text <;>
  · rw [Term.matchesFrom, h]
    rfl

lemma Term.found?_eq_some_iff {trail : Trail} {stop : Nat} :
    t.found? last before offset text = some (trail, stop) ↔
      last.all (· ≤ offset) = true ∧ t.matchAt? before offset text = some trail ∧
        trail.lastClosed 0 = some stop ∧ (stop ≠ offset ∨ last ≠ some offset) := by
  unfold Term.found?
  simp only [Option.bind_eq_bind, Option.bind_eq_some_iff, Option.guard_eq_some']
  constructor
  · rintro ⟨_, hl, found, hfound, closed, hclosed, _, hne, hpair⟩
    obtain ⟨rfl, rfl⟩ := Prod.mk.inj (Option.some.inj hpair)
    exact ⟨hl, hfound, hclosed, hne⟩
  · rintro ⟨hl, hfound, hclosed, hne⟩
    exact ⟨(), hl, trail, hfound, stop, hclosed, (), hne, rfl⟩

lemma Term.found?_eq_none_of_lt {l : Nat} (h : offset < l) :
    t.found? (some l) before offset text = none := by
  rw [Option.eq_none_iff_forall_ne_some]
  rintro ⟨trail, stop⟩ hfound
  have hle := (Term.found?_eq_some_iff.mp hfound).1
  simp at hle
  omega

/-- A match that is found takes a part of the text; the others follow after it. -/
lemma Term.inOrder_of_found (ht : t.GroupsPos) {trail : Trail} {stop : Nat}
    (h : t.found? last before offset text = some (trail, stop))
    (hlater : ∀ used rest, text = used ++ rest → InOrder (offset + width used) rest
      ((t.matchesAfter (some (offset + width used)) offset text).map t.groupsIn)) :
    InOrder offset text ((t.matchesFrom last before offset text).map t.groupsIn) := by
  obtain ⟨-, hmatch, hclosed, -⟩ := Term.found?_eq_some_iff.mp h
  obtain ⟨used, rest, htext, hzero, hinside⟩ := Term.matchAt?_spans ht hmatch
  obtain ⟨hstop, -⟩ := Trail.span_eq_some_iff.mp hzero
  obtain rfl : offset + width used = stop := Option.some.inj (hstop.symm.trans hclosed)
  rw [Term.matchesFrom_of_found h, List.map_cons]
  refine .cons [] used rest htext.symm ?_ (fun g a b hg => ?_) ?_
  · rw [Term.groupsIn_zero, hzero]
    rfl
  · exact hinside g a b (Term.groupsIn_eq_some hg)
  · exact hlater used rest htext.symm

lemma all_le_add (n : Nat) (h : last.all (· ≤ offset) = true) :
    last.all (· ≤ offset + n) = true := by
  cases last with
  | none => rfl
  | some l =>
    simp only [Option.all_some, decide_eq_true_eq] at h ⊢
    exact Nat.le_trans h (Nat.le_add_right _ _)

/-- No match begins inside the last one. -/
lemma Term.exists_matchesFrom_append (t : Term) (before : Option Char) (offset : Nat)
    (used rest : List Char) :
    ∃ before', t.matchesFrom (some (offset + width used)) before offset (used ++ rest) =
      t.matchesFrom (some (offset + width used)) before' (offset + width used) rest := by
  induction used generalizing before offset with
  | nil => exact ⟨before, rfl⟩
  | cons c used ih =>
    have hlt : offset < offset + width (c :: used) := by
      have := c.utf8Size_pos
      rw [width_cons]
      omega
    have hwidth : offset + width (c :: used) = offset + c.utf8Size + width used := by
      rw [width_cons, Nat.add_assoc]
    rw [matchesFrom_of_not_found (found?_eq_none_of_lt hlt), List.cons_append, matchesAfter, hwidth]
    exact ih (some c) (offset + c.utf8Size)

/-- Behind a match that is not empty, the search goes on at its end. -/
lemma Term.exists_matchesAfter_append (t : Term) {used : List Char} (hne : used ≠ [])
    (rest : List Char) :
    ∃ before', t.matchesAfter (some (offset + width used)) offset (used ++ rest) =
      t.matchesFrom (some (offset + width used)) before' (offset + width used) rest := by
  obtain ⟨c, used, rfl⟩ := List.exists_cons_of_ne_nil hne
  rw [List.cons_append, matchesAfter, width_cons, ← Nat.add_assoc]
  exact t.exists_matchesFrom_append (some c) (offset + c.utf8Size) used rest

lemma Term.inOrder_matchesFrom (ht : t.GroupsPos) (hlast : last.all (· ≤ offset) = true) :
    InOrder offset text ((t.matchesFrom last before offset text).map t.groupsIn) := by
  induction hn : text.length using Nat.strongRecOn generalizing last before offset text with
  | ind n ih =>
    have hafter : ∀ last : Option Nat, last.all (· ≤ offset) = true →
        InOrder offset text ((t.matchesAfter last offset text).map t.groupsIn) := by
      intro last hlast
      cases text with
      | nil => exact .nil _ _
      | cons c text =>
        exact InOrder.skip (s := [c]) (ih text.length (by simp [← hn]) (all_le_add _ hlast) rfl)
    cases hfound : t.found? last before offset text with
    | none =>
      rw [Term.matchesFrom_of_not_found hfound]
      exact hafter last hlast
    | some found =>
      refine Term.inOrder_of_found ht hfound fun used rest hsplit => ?_
      subst hsplit
      by_cases hempty : used = []
      · subst hempty
        exact hafter _ (by simp)
      · obtain ⟨before', hnext⟩ := t.exists_matchesAfter_append hempty rest
        have hshorter : rest.length < n := by
          have hpos := List.length_pos_iff.mpr hempty
          rw [← hn, List.length_append]
          omega
        rw [hnext]
        exact ih rest.length hshorter (by simp) rfl

/-- **The matches of a pattern come in order**, and their groups lie inside them. -/
theorem inOrder_matchesIn (p : Pattern) (path : List Char) : InOrder 0 path (p.matchesIn path) :=
  Term.inOrder_matchesFrom (Reader.groupsPos_of_read p.reads) rfl

end StablePath.Pattern
