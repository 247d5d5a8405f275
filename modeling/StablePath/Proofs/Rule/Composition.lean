import StablePath.Proofs.Rule.Overwriting

/-!
Lists of rules.

A rule edits a path exactly if it is a candidate and finds something. So a list of rules works one
rule after the other, and whether it edits a path at all can be told from the path as it was.

One draft may as well be carried through all rules. It is begun when something is found for the
first time, and what a rule leaves in it besides the path is not read by the next one.
-/

namespace StablePath

/-- What two reductions make of a path, one after the other. -/
def Reduction.andThen (first next : Reduction) : Reduction :=
  ⟨next.path, first.edited || next.edited⟩

@[simp] lemma Reduction.andThen_unedited (path : List Char) :
    Reduction.andThen ⟨path, false⟩ = id := by
  funext next
  simp [andThen]

lemma Reduction.andThen_assoc (a b c : Reduction) :
    (a.andThen b).andThen c = a.andThen (b.andThen c) := by
  simp [andThen, Bool.or_assoc]

namespace Rule

variable {rule : Rule} {sighting : Sighting} {path : List Char}

/-- A rule has something to edit in a path. -/
def Acts (rule : Rule) (filesystem : Option String) (path : List Char) : Prop :=
  rule.isCandidate path filesystem = true ∧ rule.matchesIn path ≠ []

lemma reduce?_of_not_acts (h : ¬ rule.Acts sighting.filesystem path) :
    rule.reduce? sighting path = some ⟨path, false⟩ := by
  unfold reduce?
  split_ifs with hc
  · have hnone : rule.matchesIn path = [] := by
      by_contra hfound
      exact h ⟨hc, hfound⟩
    rw [hnone]
  · rfl

lemma reduce?_of_acts (h : rule.Acts sighting.filesystem path) :
    rule.reduce? sighting path =
      (rule.editAll? (rule.matchesIn path) ⟨path, [], sighting⟩).map fun draft =>
        ⟨draft.path, true⟩ := by
  obtain ⟨hc, hfound⟩ := h
  unfold reduce?
  rw [if_pos hc]
  split
  next hnone => exact absurd hnone hfound
  · rfl

lemma exists_editAll? (rule : Rule) (draft : Draft) :
    ∃ edited, rule.editAll? (rule.matchesIn draft.path) draft = some edited ∧
      edited.sighting = draft.sighting := by
  obtain ⟨edited, out, hedited, -, hsighting, -⟩ := rule.editAll?_eq
    (Pattern.inOrder_matchesIn rule.pattern draft.path) (show 0 = Text.width [] from rfl)
    (List.nil_append draft.path).symm
  exact ⟨edited, hedited, hsighting⟩

/-- The groups that are in a draft at first are not read. -/
lemma editAll?_groups {found : List Pattern.Groups} (hfound : found ≠ []) (draft : Draft)
    (groups : Pattern.Groups) :
    rule.editAll? found { draft with groups } = rule.editAll? found draft := by
  obtain ⟨front, last, rfl⟩ : ∃ front last, found = front ++ [last] :=
    ⟨_, _, (List.dropLast_concat_getLast hfound).symm⟩
  unfold editAll?
  rw [List.foldrM_append, List.foldrM_append]
  rfl

/-- **When a rule edits a path.** -/
lemma exists_reduce? (rule : Rule) (sighting : Sighting) (path : List Char) :
    ∃ reduction, rule.reduce? sighting path = some reduction ∧
      (reduction.edited = true ↔ rule.Acts sighting.filesystem path) ∧
      (reduction.edited = false → reduction.path = path) := by
  by_cases h : rule.Acts sighting.filesystem path
  · obtain ⟨edited, hedited, -⟩ := rule.exists_editAll? ⟨path, [], sighting⟩
    refine ⟨⟨edited.path, true⟩, ?_, iff_of_true rfl h, fun hno => by cases hno⟩
    rw [reduce?_of_acts h, hedited]
    rfl
  · exact ⟨⟨path, false⟩, reduce?_of_not_acts h, iff_of_false (by simp) h, fun _ => rfl⟩

end Rule

/-! ### One rule after the other -/

namespace Ruleset

variable {sighting : Sighting} {path : List Char}

lemma reduce?_nil : (⟨[]⟩ : Ruleset).reduce? sighting path = some ⟨path, false⟩ := rfl

/-- Goes on with a rule after a reduction. -/
def step? (sighting : Sighting) (reduction : Reduction) (rule : Rule) : Option Reduction :=
  (rule.reduce? sighting reduction.path).map reduction.andThen

lemma reduce?_eq_foldlM (rules : List Rule) :
    (⟨rules⟩ : Ruleset).reduce? sighting path = rules.foldlM (step? sighting) ⟨path, false⟩ := by
  unfold reduce?
  congr 1
  funext reduction rule
  exact (Option.map_eq_bind ..).symm

lemma foldlM_step? (rules : List Rule) (reduction : Reduction) :
    rules.foldlM (step? sighting) reduction =
      ((⟨rules⟩ : Ruleset).reduce? sighting reduction.path).map reduction.andThen := by
  rw [reduce?_eq_foldlM]
  induction rules generalizing reduction with
  | nil => simp [Reduction.andThen]
  | cons rule rules ih =>
    have hstep : step? sighting reduction rule =
        (step? sighting ⟨reduction.path, false⟩ rule).map reduction.andThen := by
      simp [step?]
    rw [List.foldlM_cons, List.foldlM_cons, Option.bind_eq_bind, hstep,
      Option.bind_map, Option.map_bind]
    congr 1
    funext next
    rw [Function.comp_apply, Function.comp_apply, ih, ih next, Option.map_map]
    congr 1
    funext last
    exact reduction.andThen_assoc next last

lemma reduce?_append (first second : List Rule) :
    (⟨first ++ second⟩ : Ruleset).reduce? sighting path =
      ((⟨first⟩ : Ruleset).reduce? sighting path).bind fun a =>
        ((⟨second⟩ : Ruleset).reduce? sighting a.path).map a.andThen := by
  rw [reduce?_eq_foldlM, List.foldlM_append, ← reduce?_eq_foldlM]
  exact congrArg _ (funext (foldlM_step? second))

lemma reduce?_one (rule : Rule) :
    (⟨[rule]⟩ : Ruleset).reduce? sighting path = rule.reduce? sighting path := by
  rw [reduce?_eq_foldlM]
  simp [step?]

lemma reduce?_cons (rule : Rule) (rules : List Rule) :
    (⟨rule :: rules⟩ : Ruleset).reduce? sighting path =
      (rule.reduce? sighting path).bind fun first =>
        ((⟨rules⟩ : Ruleset).reduce? sighting first.path).map first.andThen := by
  rw [← reduce?_one rule]
  exact reduce?_append [rule] rules

/-- Whether a list of rules edits a path can be told from the path as it was: until a rule acts,
all rules see the same path. -/
lemma exists_reduce? (rules : List Rule) (sighting : Sighting) (path : List Char) :
    ∃ reduction, (⟨rules⟩ : Ruleset).reduce? sighting path = some reduction ∧
      (reduction.edited = false ↔ ∀ rule ∈ rules, ¬ rule.Acts sighting.filesystem path) ∧
      (reduction.edited = false → reduction.path = path) := by
  induction rules generalizing path with
  | nil => exact ⟨_, reduce?_nil, by simp, fun _ => rfl⟩
  | cons rule rules ih =>
    obtain ⟨first, hfirst, hacts, hsame⟩ := rule.exists_reduce? sighting path
    obtain ⟨next, hnext, hrules, hsame'⟩ := ih first.path
    refine ⟨first.andThen next, by rw [reduce?_cons, hfirst, Option.bind_some, hnext]; rfl, ?_, ?_⟩
    · have hor : (first.andThen next).edited = (first.edited || next.edited) := rfl
      rw [hor, List.forall_mem_cons, ← hacts, Bool.or_eq_false_iff, Bool.not_eq_true]
      exact and_congr_right fun hno => by rw [hrules, hsame hno]
    · intro hno
      obtain ⟨hno, hno'⟩ := Bool.or_eq_false_iff.mp hno
      exact (hsame' hno').trans (hsame hno)

end Ruleset

/-! ### One draft through all rules -/

/-- The path as it is in a draft, or as it was if there is no draft yet. -/
def Draft.current (path : List Char) (draft : Option Draft) : List Char :=
  (draft.map Draft.path).getD path

/-- Revises the draft that the rules before have left. A draft is begun when something is found for
the first time; the groups in it are those of the match that was edited last. -/
def Rule.revise? (rule : Rule) (sighting : Sighting) (path : List Char) (draft : Option Draft) :
    Option (Option Draft) :=
  let current := Draft.current path draft
  if rule.isCandidate current sighting.filesystem then
    match rule.matchesIn current with
    | [] => some draft
    | found => (rule.editAll? found (draft.getD ⟨path, [], sighting⟩)).map some
  else some draft

/-- Carries one draft through all rules. -/
def Ruleset.revise? (ruleset : Ruleset) (sighting : Sighting) (path : List Char) :
    Option (Option Draft) :=
  ruleset.rules.foldlM (fun draft rule => rule.revise? sighting path draft) none

/-- A draft stands for a reduction of a path. -/
structure Draft.Shows (sighting : Sighting) (path : List Char) (draft : Option Draft)
    (reduction : Reduction) : Prop where
  path_eq : Draft.current path draft = reduction.path
  isSome_eq : draft.isSome = reduction.edited
  sighting_eq : ∀ d ∈ draft, d.sighting = sighting

/-- What one rule does to a draft, whatever the groups in it. -/
lemma Rule.revise?_shows {rule : Rule} {sighting : Sighting} {path : List Char}
    {draft : Option Draft} {reduction next : Reduction}
    (h : Draft.Shows sighting path draft reduction)
    (hnext : rule.reduce? sighting reduction.path = some next) :
    ∃ draft', rule.revise? sighting path draft = some draft' ∧
      Draft.Shows sighting path draft' (reduction.andThen next) := by
  obtain ⟨hpath, hsome, hsighting⟩ := h
  unfold Rule.revise?
  dsimp only
  rw [hpath]
  by_cases hacts : rule.Acts sighting.filesystem reduction.path
  · obtain ⟨hc, hfound⟩ := hacts
    -- the draft of the reduction differs from this one in its groups at most
    obtain ⟨groups, hdraft⟩ : ∃ groups, draft.getD ⟨path, [], sighting⟩ =
        ⟨reduction.path, groups, sighting⟩ := by
      cases draft with
      | none => exact ⟨[], by rw [← hpath]; rfl⟩
      | some d => exact ⟨d.groups, by rw [← hpath, ← hsighting d rfl]; rfl⟩
    obtain ⟨edited, hedited, hsighting'⟩ := rule.exists_editAll? ⟨reduction.path, [], sighting⟩
    have hsame : rule.editAll? (rule.matchesIn reduction.path)
        (draft.getD ⟨path, [], sighting⟩) = some edited := by
      rw [hdraft]
      exact (editAll?_groups hfound ⟨reduction.path, [], sighting⟩ groups).trans hedited
    rw [reduce?_of_acts ⟨hc, hfound⟩, hedited, Option.map_some, Option.some_inj] at hnext
    rw [if_pos hc]
    split
    next hnone => exact absurd hnone hfound
    next =>
      rw [hsame]
      refine ⟨some edited, rfl, ?_, ?_, ?_⟩
      · rw [← hnext]
        rfl
      · simp [← hnext, Reduction.andThen]
      · simpa using hsighting'
  · rw [reduce?_of_not_acts hacts, Option.some_inj] at hnext
    refine ⟨draft, ?_, by rw [← hnext]; exact hpath, by simp [← hnext, Reduction.andThen, hsome],
      hsighting⟩
    split_ifs with hc
    · have hnone : rule.matchesIn reduction.path = [] := by
        by_contra hfound
        exact hacts ⟨hc, hfound⟩
      rw [hnone]
    · rfl

lemma Ruleset.revise?_shows (rules : List Rule) {sighting : Sighting} {path : List Char}
    {draft : Option Draft} {reduction : Reduction}
    (h : Draft.Shows sighting path draft reduction) :
    ∃ draft' next, rules.foldlM (fun draft rule => rule.revise? sighting path draft) draft =
        some draft' ∧ (⟨rules⟩ : Ruleset).reduce? sighting reduction.path = some next ∧
      Draft.Shows sighting path draft' (reduction.andThen next) := by
  induction rules generalizing draft reduction with
  | nil => exact ⟨draft, _, rfl, reduce?_nil, by simpa [Reduction.andThen] using h⟩
  | cons rule rules ih =>
    obtain ⟨first, hfirst, -⟩ := rule.exists_reduce? sighting reduction.path
    obtain ⟨draft', hdraft', hshows⟩ := Rule.revise?_shows h hfirst
    obtain ⟨draft'', next, hdraft'', hnext, hshows'⟩ := ih hshows
    refine ⟨draft'', first.andThen next, ?_, ?_, ?_⟩
    · simp [hdraft', hdraft'']
    · have hnext' : (⟨rules⟩ : Ruleset).reduce? sighting first.path = some next := hnext
      rw [reduce?_cons, hfirst, Option.bind_some, hnext']
      rfl
    · rwa [← Reduction.andThen_assoc]

/-- **A list of rules is the composition of its rules.** Two lists one after the other reduce every
path as the first list and then the second one do, and leave it unedited exactly if both do. A
list leaves a path unedited exactly if none of its rules is a candidate with a match in the path
as it was; then the path stays. And one draft that goes through all rules shows the same. -/
theorem reduce?_composes (sighting : Sighting) (path : List Char) :
    (∀ first second : List Rule, ∃ a b c, (⟨first⟩ : Ruleset).reduce? sighting path = some a ∧
      (⟨second⟩ : Ruleset).reduce? sighting a.path = some b ∧
      (⟨first ++ second⟩ : Ruleset).reduce? sighting path = some c ∧
      c.path = b.path ∧ (c.edited = false ↔ a.edited = false ∧ b.edited = false)) ∧
    ∀ rules : List Rule, ∃ reduction draft,
      (⟨rules⟩ : Ruleset).reduce? sighting path = some reduction ∧
      (reduction.edited = false ↔ ∀ rule ∈ rules,
        ¬ (rule.isCandidate path sighting.filesystem = true ∧ rule.matchesIn path ≠ [])) ∧
      (reduction.edited = false → reduction.path = path) ∧
      (⟨rules⟩ : Ruleset).revise? sighting path = some draft ∧
      (draft.map Draft.path).getD path = reduction.path ∧ draft.isSome = reduction.edited := by
  refine ⟨fun first second => ?_, fun rules => ?_⟩
  · obtain ⟨a, ha, -⟩ := Ruleset.exists_reduce? first sighting path
    obtain ⟨b, hb, -⟩ := Ruleset.exists_reduce? second sighting a.path
    refine ⟨a, b, a.andThen b, ha, hb, ?_, rfl, Bool.or_eq_false_iff⟩
    rw [Ruleset.reduce?_append, ha, Option.bind_some, hb]
    rfl
  · obtain ⟨reduction, hreduction, hedited, hsame⟩ := Ruleset.exists_reduce? rules sighting path
    have hstart : Draft.Shows sighting path none ⟨path, false⟩ := ⟨rfl, rfl, by simp⟩
    obtain ⟨draft, next, hdraft, hnext, hshows⟩ := Ruleset.revise?_shows rules hstart
    obtain rfl : reduction = next := Option.some.inj (hreduction.symm.trans hnext)
    refine ⟨reduction, draft, hreduction, hedited, hsame, hdraft, hshows.path_eq, ?_⟩
    exact hshows.isSome_eq.trans (Bool.false_or _)

end StablePath
