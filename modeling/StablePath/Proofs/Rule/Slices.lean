import StablePath.Proofs.Rule.Composition

/-!
The slices of a reduction.

An edit takes slices of the path in its draft, and a slice that the path does not have makes the
edit impossible. So a reduction is told here by the edits that it attempts, each with the draft as
it is by then. Left of the edits that have been made a draft is still the path as it was, and
therefore the groups of the matches that are left still fit.
-/

namespace StablePath

open Text

/-! ### Slices -/

/-- A part of a path that is asked for by the byte offsets of its ends. -/
structure Slice where
  path : List Char
  start : Nat
  stop : Nat
  deriving DecidableEq, Repr

namespace Slice

/-- The ends lie in the path, between characters, and in order. -/
def Legal (slice : Slice) : Prop :=
  ∃ left middle right, slice.path = left ++ middle ++ right ∧ slice.start = width left ∧
    slice.stop = slice.start + width middle

lemma legal_iff {slice : Slice} :
    slice.Legal ↔ (slice? slice.start slice.stop slice.path).isSome = true := by
  constructor
  · rintro ⟨left, middle, right, hpath, hstart, hstop⟩
    rw [hstop, hstart, hpath, slice?_append]
    rfl
  · intro h
    obtain ⟨middle, hmiddle⟩ := Option.isSome_iff_exists.mp h
    simp only [slice?, Option.bind_eq_bind, Option.bind_eq_some_iff, Option.guard_eq_some']
      at hmiddle
    obtain ⟨_, hle, ⟨left, more⟩, hleft, ⟨middle', right⟩, hright, -⟩ := hmiddle
    obtain ⟨hpath, hstart⟩ := append_eq_of_splitAt? hleft
    obtain ⟨rfl, hstop⟩ := append_eq_of_splitAt? hright
    exact ⟨left, middle', right, by rw [← hpath, List.append_assoc], hstart.symm, by omega⟩

instance : DecidablePred Legal := fun _ => decidable_of_iff _ legal_iff.symm

lemma legal_before_iff {path : List Char} {n : Nat} :
    Legal ⟨path, 0, n⟩ ↔ (splitAt? n path).isSome = true := by
  rw [legal_iff]
  cases h : splitAt? n path <;> simp [slice?, guard, h]

lemma legal_behind_iff {path : List Char} {n : Nat} :
    Legal ⟨path, n, width path⟩ ↔ (splitAt? n path).isSome = true := by
  constructor
  · rintro ⟨left, middle, right, hpath, hstart, -⟩
    obtain rfl : path = left ++ middle ++ right := hpath
    obtain rfl : n = width left := hstart
    rw [List.append_assoc, splitAt?_width]
    rfl
  · intro h
    obtain ⟨⟨left, right⟩, hcut⟩ := Option.isSome_iff_exists.mp h
    obtain ⟨rfl, rfl⟩ := append_eq_of_splitAt? hcut
    exact ⟨left, right, [], by simp, rfl, width_append left right⟩

lemma Legal.around {path : List Char} {start stop : Nat} (h : Legal ⟨path, start, stop⟩) :
    Legal ⟨path, 0, start⟩ ∧ Legal ⟨path, stop, width path⟩ := by
  obtain ⟨left, middle, right, hpath, hstart, hstop⟩ := h
  dsimp only at hpath hstart hstop
  rw [legal_before_iff, legal_behind_iff]
  constructor
  · rw [hpath, hstart, List.append_assoc, splitAt?_width]
    rfl
  · rw [hpath, hstop, hstart, ← width_append, splitAt?_width]
    rfl

end Slice

/-! ### Edits -/

/-- An edit, and the draft that it is made on. -/
structure Attempt where
  edit : Edit
  draft : Draft

namespace Attempt

/-- Where the group to be edited is. -/
def span (attempt : Attempt) : Option (Nat × Nat) := attempt.draft.group attempt.edit.group

/-- The slices that writing over some bytes takes: what stands before them and what stands behind
them. -/
def around (path : List Char) (start stop : Nat) : List Slice :=
  [⟨path, 0, start⟩, ⟨path, stop, width path⟩]

/-- The slices that an edit takes of the path. The text of a number is taken first, to be read; only
if it can be read, something is written. -/
def slices (attempt : Attempt) : List Slice :=
  match attempt.span with
  | none => []
  | some (start, stop) =>
    let path := attempt.draft.path
    match attempt.edit with
    | .literal .. => around path start stop
    | .pid _ => ⟨path, start, stop⟩ ::
      if (slice? start stop path >>= readPid?).isSome then around path start stop else []

lemma isSome_replace?_iff {start stop : Nat} {text : List Char} {draft : Draft} :
    (draft.replace? start stop text).isSome = true ↔
      ∀ slice ∈ around draft.path start stop, slice.Legal := by
  unfold around Draft.replace? splice?
  simp only [List.forall_mem_cons, Slice.legal_before_iff, Slice.legal_behind_iff]
  cases splitAt? start draft.path <;> cases splitAt? stop draft.path <;> simp

/-- **An edit is possible exactly if the path has all slices that it takes.** -/
theorem isSome_perform?_iff (attempt : Attempt) :
    (attempt.edit.perform? attempt.draft).isSome = true ↔
      ∀ slice ∈ attempt.slices, slice.Legal := by
  obtain ⟨edit, draft⟩ := attempt
  unfold slices span Edit.perform?
  dsimp only
  cases draft.group edit.group with
  | none => simp
  | some span =>
    obtain ⟨start, stop⟩ := span
    cases edit with
    | literal group replacement => exact isSome_replace?_iff
    | pid group =>
      dsimp only
      rw [List.forall_mem_cons, Slice.legal_iff]
      cases slice? start stop draft.path with
      | none => simp
      | some text =>
        cases hread : readPid? text with
        | none => simp [hread]
        | some n => simp [hread, isSome_replace?_iff]

/-- The group to be edited lies in the path as it is by now. -/
def Fits (attempt : Attempt) : Prop :=
  ∀ start stop, attempt.span = some (start, stop) → Slice.Legal ⟨attempt.draft.path, start, stop⟩

lemma forall_mem_slices {attempt : Attempt} {P : Slice → Prop}
    (h : ∀ start stop, attempt.span = some (start, stop) → P ⟨attempt.draft.path, start, stop⟩ ∧
      P ⟨attempt.draft.path, 0, start⟩ ∧
      P ⟨attempt.draft.path, stop, width attempt.draft.path⟩) :
    ∀ slice ∈ attempt.slices, P slice := by
  unfold slices
  split
  · simp
  next start stop hspan =>
    obtain ⟨hmiddle, hbefore, hbehind⟩ := h start stop hspan
    have haround : ∀ slice ∈ around attempt.draft.path start stop, P slice :=
      List.forall_mem_cons.mpr ⟨hbefore, List.forall_mem_singleton.mpr hbehind⟩
    dsimp only
    split
    · exact haround
    next =>
      refine List.forall_mem_cons.mpr ⟨hmiddle, ?_⟩
      split
      · exact haround
      · simp

lemma path_of_mem_slices (attempt : Attempt) :
    ∀ slice ∈ attempt.slices, slice.path = attempt.draft.path :=
  forall_mem_slices fun _ _ _ => ⟨rfl, rfl, rfl⟩

lemma Fits.legal {attempt : Attempt} (h : attempt.Fits) :
    ∀ slice ∈ attempt.slices, slice.Legal :=
  forall_mem_slices fun start stop hspan => ⟨h start stop hspan, (h start stop hspan).around⟩

end Attempt

/-! ### The edits of a rule -/

namespace Rule

/-- The edits of a rule, in the order in which they are attempted: from the last match to the first,
each on the draft that the edit before has left, as long as there is one. -/
def attempts (rule : Rule) (draft : Draft) : List Pattern.Groups → List Attempt
  | [] => []
  | groups :: more => rule.attempts draft more ++
      ((rule.editAll? more draft).map fun edited => ⟨rule.edit, { edited with groups }⟩).toList

lemma editAll?_cons (rule : Rule) (groups : Pattern.Groups) (more : List Pattern.Groups)
    (draft : Draft) :
    rule.editAll? (groups :: more) draft =
      (rule.editAll? more draft).bind fun edited => rule.edit.perform? { edited with groups } := by
  unfold editAll?
  rw [List.foldrM_cons]
  rfl

/-- **What makes the edits of a rule impossible is a slice that the path does not have, and nothing
else.** This holds of all groups, also of those that no match has. -/
theorem isSome_editAll?_iff (rule : Rule) (found : List Pattern.Groups) (draft : Draft) :
    (rule.editAll? found draft).isSome = true ↔
      ∀ attempt ∈ rule.attempts draft found, ∀ slice ∈ attempt.slices, slice.Legal := by
  induction found with
  | nil => simp [attempts, editAll?]
  | cons groups more ih =>
    simp only [attempts, List.mem_append, or_imp, forall_and]
    rw [editAll?_cons, ← ih]
    cases rule.editAll? more draft with
    | none => simp
    | some edited => simp [Attempt.isSome_perform?_iff ⟨rule.edit, { edited with groups }⟩]

/-- Left of the matches that have been edited a draft is still the path. So the groups of matches in
the path fit when their turn comes, and every match has its turn. -/
lemma attempts_of_inOrder (rule : Rule) {found : List Pattern.Groups} {offset : Nat}
    {text : List Char} (h : Pattern.InOrder offset text found) {draft : Draft} {left : List Char}
    (hoffset : offset = width left) (hpath : draft.path = left ++ text) :
    (∀ attempt ∈ rule.attempts draft found, attempt.Fits) ∧
      (rule.attempts draft found).map (fun attempt => attempt.draft.groups) = found.reverse := by
  induction h generalizing left with
  | nil => simp [attempts]
  | @cons offset text groups more skipped used rest split whole inside later ih =>
    have hleft : offset + width skipped + width used = width (left ++ skipped ++ used) := by
      simp [hoffset, Nat.add_assoc]
    have hright : draft.path = left ++ skipped ++ used ++ rest := by simp [hpath, split]
    obtain ⟨hfits, hgroups⟩ := ih hleft hright
    obtain ⟨edited, out, hedited, hout, -, -⟩ := rule.editAll?_eq later hleft hright
    simp only [attempts, hedited, Option.map_some, Option.toList_some]
    refine ⟨List.forall_mem_append.mpr ⟨hfits, List.forall_mem_singleton.mpr ?_⟩, by simp [hgroups]⟩
    intro start stop hspan
    obtain ⟨x, old, z, rfl, hstart, hstop⟩ := inside _ start stop (Option.join_eq_some_iff.mp hspan)
    -- only behind this match the path has changed, to `out`
    refine ⟨left ++ skipped ++ x, old, z ++ out, ?_, ?_, hstop⟩
    · simp [hout]
    · simp [hstart, hoffset, Nat.add_assoc]

/-- The edits that a rule attempts on a path. -/
def attemptsIn (rule : Rule) (sighting : Sighting) (path : List Char) : List Attempt :=
  if rule.isCandidate path sighting.filesystem then
    rule.attempts ⟨path, [], sighting⟩ (rule.matchesIn path)
  else []

lemma attempts_matchesIn (rule : Rule) (draft : Draft) :
    (∀ attempt ∈ rule.attempts draft (rule.matchesIn draft.path), attempt.Fits) ∧
      (rule.attempts draft (rule.matchesIn draft.path)).map (fun attempt => attempt.draft.groups) =
        (rule.matchesIn draft.path).reverse :=
  rule.attempts_of_inOrder (Pattern.inOrder_matchesIn rule.pattern draft.path)
    (show 0 = width [] from rfl) (List.nil_append draft.path).symm

lemma fits_of_mem_attemptsIn {rule : Rule} {sighting : Sighting} {path : List Char}
    {attempt : Attempt} (h : attempt ∈ rule.attemptsIn sighting path) : attempt.Fits := by
  unfold attemptsIn at h
  split at h
  · exact (rule.attempts_matchesIn ⟨path, [], sighting⟩).1 attempt h
  · cases h

end Rule

/-! ### The edits of a list of rules -/

namespace Ruleset

/-- The edits that a list of rules attempts on a path: those of each rule on the output of the one
before. -/
def attempts (sighting : Sighting) : List Rule → List Char → List Attempt
  | [], _ => []
  | rule :: rules, path => rule.attemptsIn sighting path ++
      match rule.reduce? sighting path with
      | some reduction => attempts sighting rules reduction.path
      | none => []

lemma fits_of_mem_attempts {sighting : Sighting} {rules : List Rule} {path : List Char}
    {attempt : Attempt} (h : attempt ∈ attempts sighting rules path) : attempt.Fits := by
  induction rules generalizing path with
  | nil => cases h
  | cons rule rules ih =>
    rcases List.mem_append.mp h with h | h
    · exact Rule.fits_of_mem_attemptsIn h
    · split at h
      · exact ih h
      · cases h

end Ruleset

/-- **A reduction takes legal slices only.** Every list of rules reduces every path. At each edit on
the way the group to be edited lies in the path as it is by then, and so does each slice that the
edit takes of it: the ends are in order and between characters. The edits are told in full. A rule
makes one for every match, from the last to the first, and it is only for a slice that a path does
not have that edits are not possible. -/
theorem reduce?_takes_legal_slices (rules : List Rule) (sighting : Sighting) (path : List Char) :
    (∃ reduction, (⟨rules⟩ : Ruleset).reduce? sighting path = some reduction) ∧
    (∀ attempt ∈ Ruleset.attempts sighting rules path,
      (∀ start stop, attempt.span = some (start, stop) →
        Slice.Legal ⟨attempt.draft.path, start, stop⟩) ∧
      ∀ slice ∈ attempt.slices, slice.path = attempt.draft.path ∧ slice.Legal) ∧
    (∀ (rule : Rule) (draft : Draft), (rule.attempts draft (rule.matchesIn draft.path)).map
      (fun attempt => attempt.draft.groups) = (rule.matchesIn draft.path).reverse) ∧
    ∀ (rule : Rule) (found : List Pattern.Groups) (draft : Draft),
      (rule.editAll? found draft).isSome = true ↔
        ∀ attempt ∈ rule.attempts draft found, ∀ slice ∈ attempt.slices, slice.Legal := by
  refine ⟨?_, fun attempt hmem => ?_, fun rule draft => (rule.attempts_matchesIn draft).2,
    Rule.isSome_editAll?_iff⟩
  · obtain ⟨reduction, hreduction, -⟩ := Ruleset.exists_reduce? rules sighting path
    exact ⟨reduction, hreduction⟩
  · have hfits := Ruleset.fits_of_mem_attempts hmem
    exact ⟨hfits, fun slice hslice =>
      ⟨attempt.path_of_mem_slices slice hslice, hfits.legal slice hslice⟩⟩

/-- An edit whose group ends in the middle of a character is not possible. -/
example : (Edit.literal 0 "*").perform? ⟨['/', 'é'], [some (0, 2)], ⟨none, 7⟩⟩ = none := by
  decide

end StablePath
