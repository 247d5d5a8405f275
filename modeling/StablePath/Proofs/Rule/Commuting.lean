import Mathlib.Data.List.Infix
import StablePath.Proofs.Rule.Composition
import StablePath.Proofs.Rule.Masking
import StablePath.Proofs.Rule.Pieces

/-!
Rules that commute.

If two rules give the same outcome in either order, on every path, they may stand in either order in
a list. Whether a list edits a path does not depend on the order, so only the outcomes count. Two
sweeps over runs commute if no match of the one begins inside a match of the other, be its run
written over or not.
-/

namespace StablePath

open Pattern

/-! ### Lists of rules in another order -/

namespace Rule

/-- Two rules reduce every path alike in either order. -/
def Commutes (a b : Rule) : Prop :=
  ∀ sighting path, (⟨[a, b]⟩ : Ruleset).reduce? sighting path =
    (⟨[b, a]⟩ : Ruleset).reduce? sighting path

lemma Commutes.symm {a b : Rule} (h : a.Commutes b) : b.Commutes a :=
  fun sighting path => (h sighting path).symm

end Rule

namespace Ruleset

variable {sighting : Sighting} {path : List Char} {rules rules' : List Rule}

lemma edited_eq_of_perm (h : rules.Perm rules') {reduction reduction' : Reduction}
    (hr : (⟨rules⟩ : Ruleset).reduce? sighting path = some reduction)
    (hr' : (⟨rules'⟩ : Ruleset).reduce? sighting path = some reduction') :
    reduction.edited = reduction'.edited := by
  obtain ⟨_, hsome, hedited, -⟩ := exists_reduce? rules sighting path
  obtain ⟨_, hsome', hedited', -⟩ := exists_reduce? rules' sighting path
  obtain rfl := Option.some.inj (hr.symm.trans hsome)
  obtain rfl := Option.some.inj (hr'.symm.trans hsome')
  rw [← Bool.not_inj_iff, Bool.eq_iff_iff, Bool.not_eq_true', Bool.not_eq_true', hedited, hedited']
  exact forall_congr' fun rule => imp_congr_left h.mem_iff

lemma reduce?_perm (h : rules.Perm rules') (hcomm : rules.Pairwise Rule.Commutes) :
    (⟨rules⟩ : Ruleset).reduce? sighting path = (⟨rules'⟩ : Ruleset).reduce? sighting path := by
  induction h generalizing path with
  | nil => rfl
  | cons rule _ ih =>
    rw [reduce?_cons, reduce?_cons]
    simp only [ih (List.pairwise_cons.mp hcomm).2]
  | swap a b rules =>
    have hswap := (List.pairwise_cons.mp hcomm).1 a List.mem_cons_self
    have hlist : ∀ c d : Rule, c :: d :: rules = [c, d] ++ rules := fun _ _ => rfl
    rw [hlist, hlist, reduce?_append, reduce?_append, hswap]
  | trans h _ ih ih' =>
    rw [ih hcomm, ih' (hcomm.perm h Rule.Commutes.symm)]

end Ruleset

lemma Rule.commutes_of_path {a b : Rule} (h : ∀ sighting path ra rb rab rba,
    a.reduce? sighting path = some ra → b.reduce? sighting path = some rb →
    b.reduce? sighting ra.path = some rab → a.reduce? sighting rb.path = some rba →
      rab.path = rba.path) : a.Commutes b := by
  intro sighting path
  obtain ⟨ra, hra, -⟩ := a.exists_reduce? sighting path
  obtain ⟨rb, hrb, -⟩ := b.exists_reduce? sighting path
  obtain ⟨rab, hrab, -⟩ := b.exists_reduce? sighting ra.path
  obtain ⟨rba, hrba, -⟩ := a.exists_reduce? sighting rb.path
  have hab : (⟨[a, b]⟩ : Ruleset).reduce? sighting path = some (ra.andThen rab) := by
    rw [Ruleset.reduce?_cons, hra, Option.bind_some, Ruleset.reduce?_one, hrab]
    rfl
  have hba : (⟨[b, a]⟩ : Ruleset).reduce? sighting path = some (rb.andThen rba) := by
    rw [Ruleset.reduce?_cons, hrb, Option.bind_some, Ruleset.reduce?_one, hrba]
    rfl
  have hedited := Ruleset.edited_eq_of_perm (.swap b a []) hab hba
  have hpath := h sighting path ra rb rab rba hra hrb hrab hrba
  rw [hab, hba]
  exact congrArg₂ (fun path edited => some (Reduction.mk path edited)) hpath hedited

/-! ### Sweeps over runs -/

lemma longest_of_end {leads : List (List Char)} {p : Char → Bool} {lead span rest : List Char}
    (hlead : lead ∈ leads) (hne : span ≠ []) (hspan : ∀ c ∈ span, p c = true)
    (hrest : ∀ c ∈ rest.head?, p c = false) :
    Longest (Around leads 1 p [[]]) ⟨lead, span, [], rest⟩ := by
  refine ⟨⟨hlead, List.length_pos_iff.mpr hne, hspan, List.mem_singleton_self _⟩, ?_⟩
  rintro ⟨lead', span', tail', rest'⟩ ⟨-, -, hspan', -⟩ htext rfl
  have hsplit : span' ++ (tail' ++ rest') = span ++ rest := by
    simpa [Hit.text, Hit.taken] using htext
  rcases List.append_eq_append_iff.mp hsplit with ⟨more, rfl, -⟩ | ⟨more, rfl, hmore⟩
  · simp
  · -- what a longer run has more would be of the class
    cases more with
    | nil => simp
    | cons c more =>
      have hc : p c = false := hrest c (by rw [hmore]; rfl)
      rw [hspan' c (by simp)] at hc
      cases hc

lemma head_of_longest {leads : List (List Char)} {p : Char → Bool} {hit : Hit}
    (h : Longest (Around leads 1 p [[]]) hit) : ∀ c ∈ hit.rest.head?, p c = false := by
  obtain ⟨lead, span, tail, rest⟩ := hit
  obtain ⟨⟨hlead, -, hspan, htail⟩, hlongest⟩ := h
  obtain rfl := List.mem_singleton.mp htail
  intro c hc
  by_contra hp
  cases rest with
  | nil => cases hc
  | cons d rest =>
    obtain rfl : d = c := Option.some.inj hc
    have hlonger := hlongest ⟨lead, span ++ [d], [], rest⟩
      ⟨hlead, by simp, List.forall_mem_append.mpr ⟨hspan, by simpa using hp⟩, htail⟩
      (by simp [Hit.text, Hit.taken]) rfl
    simp at hlonger

/-- Runs of a class behind some texts, none of which has a star. -/
structure Runs (leads : List (List Char)) (p : Char → Bool) : Prop where
  prefixFree : PrefixFree leads
  ne_nil : [] ∉ leads
  lead_star : ∀ lead ∈ leads, '*' ∉ lead
  run_star : p '*' = false

/-- A sweep that writes a star over each of the longest runs. -/
abbrev RunSweep (leads : List (List Char)) (p : Char → Bool) (text out : List Char) : Prop :=
  Sweeps (Longest (Around leads 1 p [[]])) (NoHit (Around leads 1 p [[]])) star text out

/-- No run of the second kind begins inside one of the first, be this written over or not. -/
def Foreign (leads : List (List Char)) (p : Char → Bool) (leads' : List (List Char))
    (p' : Char → Bool) : Prop :=
  ∀ lead ∈ leads, ∀ run, run ≠ [] → (∀ c ∈ run, p c = true ∨ c = '*') →
    ∀ s, s ≠ [] → s <:+ lead ++ run → ∀ rest, NoHit (Around leads' 1 p' [[]]) (s ++ rest)

section

variable {leads leads' : List (List Char)} {p p' : Char → Bool} {text out a b ab ba : List Char}

/-- It can be told from the texts before the runs whether one kind is foreign to another. Where such
a text of the second kind goes on behind one of the first, it goes on with no run and no star. -/
lemma foreign_of_tails
    (hhead : ∀ lead' ∈ leads', lead'.head?.any (fun c => p c || c == '*') = false)
    (hne : [] ∉ leads')
    (htails : ∀ lead ∈ leads, ∀ s ∈ lead.tails, s ≠ [] → ∀ lead' ∈ leads', ¬ lead' <+: s ∧
      (s <+: lead' → (lead'.drop s.length).head?.any (fun c => p c || c == '*') = false)) :
    Foreign leads p leads' p' := by
  intro lead hlead run hrun hclass s hs hsuffix rest
  rintro ⟨lead', span', tail', rest'⟩ htext ⟨hlead', -⟩
  have hsplit : lead' ++ (span' ++ (tail' ++ rest')) = s ++ rest := by
    simpa [Hit.text, Hit.taken] using htext
  have hclass' : ∀ c ∈ run, (p c || c == '*') = true := fun c hc => by simpa using hclass c hc
  -- nothing of the second kind begins with a character of the run
  have hinside : ∀ c s', s = c :: s' → c ∉ run := by
    rintro c s' rfl hc
    obtain ⟨d, more, rfl⟩ := List.exists_cons_of_ne_nil fun hnil => hne (hnil ▸ hlead')
    obtain ⟨rfl, -⟩ := List.cons.inj hsplit
    exact Bool.false_ne_true ((hhead _ hlead').symm.trans (hclass' d hc))
  obtain ⟨t, ht⟩ := hsuffix
  rcases List.append_eq_append_iff.mp ht with ⟨s', rfl, hs'⟩ | ⟨t', rfl, rfl⟩
  · cases s' with
    | nil =>
      obtain ⟨c, run', rfl⟩ := List.exists_cons_of_ne_nil hrun
      exact hinside c run' hs' List.mem_cons_self
    | cons d s' =>
      have hmem : d :: s' ∈ (t ++ d :: s').tails :=
        (List.mem_tails _ _).mpr (List.suffix_append _ _)
      obtain ⟨hno, hbehind⟩ := htails _ hlead _ hmem (by simp) lead' hlead'
      rw [hs', List.append_assoc] at hsplit
      rcases List.append_eq_append_iff.mp hsplit with ⟨w, hw, -⟩ | ⟨w, rfl, hw⟩
      · exact hno ⟨w, hw.symm⟩
      · obtain ⟨c, run', rfl⟩ := List.exists_cons_of_ne_nil hrun
        cases w with
        | nil => exact hno (by simp)
        | cons e w =>
          obtain ⟨rfl, -⟩ := List.cons.inj hw
          have hother := hbehind (List.prefix_append _ _)
          rw [List.drop_left, List.head?_cons, Option.any_some,
            hclass' c List.mem_cons_self] at hother
          cases hother
  · obtain ⟨c, s', rfl⟩ := List.exists_cons_of_ne_nil hs
    exact hinside c s' rfl (by simp)

lemma Runs.exact (h : Runs leads p) :
    Exact (Longest (Around leads 1 p [[]])) (NoHit (Around leads 1 p [[]])) :=
  exact_longest h.prefixFree (by decide)

lemma Runs.head?_eq (h : Runs leads p) (hsweep : RunSweep leads p text out) :
    out.head? = text.head? := by
  rcases hsweep.inv with ⟨rfl, rfl⟩ | ⟨c, text', out', rfl, rfl, -⟩ |
    ⟨hit, out', rfl, rfl, ⟨⟨hlead, -⟩, -⟩, -⟩
  · rfl
  · rfl
  · have hne : hit.lead ≠ [] := fun hnil => h.ne_nil (hnil ▸ hlead)
    obtain ⟨c, lead, hcons⟩ := List.exists_cons_of_ne_nil hne
    simp [Hit.text, Hit.taken, hcons]

lemma Runs.noHit_of_sweep (h' : Runs leads' p') (hsweep : RunSweep leads p text out)
    (hno : NoHit (Around leads' 1 p' [[]]) text) : NoHit (Around leads' 1 p' [[]]) out := by
  rintro ⟨lead, span, tail, rest⟩ rfl ⟨hlead, henough, hspan, htail⟩
  obtain ⟨c, span, rfl⟩ := List.exists_cons_of_length_pos henough
  have hc : p' c = true := hspan c List.mem_cons_self
  -- up to the first character of its run there is no star
  have hstar : '*' ∉ lead ++ [c] := by
    intro hmem
    rcases List.mem_append.mp hmem with hmem | hmem
    · exact h'.lead_star lead hlead hmem
    · rw [← List.mem_singleton.mp hmem, h'.run_star] at hc
      cases hc
  have hmasks := hsweep.masks (W := fun _ _ => True) (fun _ _ _ => trivial) []
  have hout : (⟨lead, c :: span, tail, rest⟩ : Hit).text =
      (lead ++ [c]) ++ (span ++ tail ++ rest) := by
    simp [Hit.text, Hit.taken]
  rw [hout] at hmasks
  obtain ⟨text', rfl, -⟩ := hmasks.split_of_not_mem hstar
  refine hno ⟨lead, [c], [], text'⟩ (by simp [Hit.text, Hit.taken]) ?_
  exact ⟨hlead, Nat.le_refl 1, by simpa using hc, List.mem_singleton_self _⟩

/-- Where the first sweep has a match, the second one keeps it and what is written for it. -/
lemma eq_of_hit (hruns : Runs leads p) (hruns' : Runs leads' p')
    (hforeign : Foreign leads p leads' p') {hit : Hit} (hhit : Longest (Around leads 1 p [[]]) hit)
    (hb : RunSweep leads' p' hit.text b)
    (hab : RunSweep leads' p' (hit.lead ++ star hit.span ++ hit.tail ++ a) ab)
    (hba : RunSweep leads p b ba)
    (ih : ∀ b ab ba, RunSweep leads' p' hit.rest b → RunSweep leads' p' a ab →
      RunSweep leads p b ba → ab = ba) : ab = ba := by
  have hrest := head_of_longest hhit
  obtain ⟨lead, span, tail, rest⟩ := hit
  obtain ⟨⟨hlead, henough, hspan, htail⟩, -⟩ := hhit
  obtain rfl := List.mem_singleton.mp htail
  have hne : span ≠ [] := List.length_pos_iff.mp henough
  have htext : (⟨lead, span, [], rest⟩ : Hit).text = (lead ++ span) ++ rest := by
    simp [Hit.text, Hit.taken]
  have hstar : lead ++ star span ++ [] ++ a = (lead ++ ['*']) ++ a := by simp [star]
  rw [htext] at hb
  obtain ⟨b', rfl, hb'⟩ := hb.of_no_start fun s hs hsuffix hit' hhit' heq =>
    hforeign lead hlead span hne (fun c hc => Or.inl (hspan c hc)) s hs hsuffix rest hit' heq
      hhit'.1
  rw [hstar] at hab
  obtain ⟨ab', rfl, hab'⟩ := hab.of_no_start fun s hs hsuffix hit' hhit' heq =>
    hforeign lead hlead ['*'] (by simp) (by simp) s hs hsuffix a hit' heq hhit'.1
  -- the run ends in the same place
  have hlongest : Longest (Around leads 1 p [[]]) ⟨lead, span, [], b'⟩ := by
    refine longest_of_end hlead hne hspan ?_
    rwa [hruns'.head?_eq hb']
  have htext' : (lead ++ span) ++ b' = (⟨lead, span, [], b'⟩ : Hit).text := by
    simp [Hit.text, Hit.taken]
  rw [htext'] at hba
  obtain ⟨ba', rfl, hba'⟩ := hba.of_hit hruns.exact hlongest (by simp [Hit.taken, hne])
  rw [ih b' ab' ba' hb' hab' hba']
  simp [star]

/-- **Two sweeps over runs commute** if no run of the one begins inside a run of the other. -/
theorem RunSweep.comm (hruns : Runs leads p) (hruns' : Runs leads' p')
    (hforeign : Foreign leads p leads' p') (hforeign' : Foreign leads' p' leads p)
    (ha : RunSweep leads p text a) (hb : RunSweep leads' p' text b)
    (hab : RunSweep leads' p' a ab) (hba : RunSweep leads p b ba) : ab = ba := by
  induction hn : text.length using Nat.strongRecOn generalizing text a b ab ba with
  | ind n ih =>
    have hshorter : ∀ {hit : Hit}, text = hit.text → hit.taken ≠ [] → hit.rest.length < n := by
      intro hit htext hne
      have hpos := List.length_pos_iff.mpr hne
      rw [← hn, htext, Hit.text, List.length_append]
      omega
    rcases ha.inv with ⟨rfl, rfl⟩ | ⟨c, text', a', rfl, rfl, hno, ha'⟩ |
      ⟨hit, a', htext, rfl, hhit, hne, ha'⟩
    · obtain rfl := hb.eq_nil
      rw [hab.eq_nil, hba.eq_nil]
    · -- no run of the first kind begins here
      rcases hb.inv with ⟨hnil, -⟩ | ⟨d, _, b', htext, rfl, hno', hb'⟩ |
        ⟨hit, b', htext, rfl, hhit, hne, hb'⟩
      · cases hnil
      · obtain ⟨rfl, rfl⟩ := List.cons.inj htext
        have hnone := hruns'.noHit_of_sweep ha hno'
        have hnone' := hruns.noHit_of_sweep hb hno
        obtain ⟨ab', rfl, hab'⟩ := hab.of_none hruns'.exact hnone
        obtain ⟨ba', rfl, hba'⟩ := hba.of_none hruns.exact hnone'
        rw [ih text'.length (by simp [← hn]) ha' hb' hab' hba' rfl]
      · refine (eq_of_hit hruns' hruns hforeign' hhit (htext ▸ ha) hba hab ?_).symm
        intro a ba ab ha hba hab
        exact (ih _ (hshorter htext hne) ha hb' hab hba rfl).symm
    · refine eq_of_hit hruns hruns' hforeign hhit (htext ▸ hb) hab hba ?_
      intro b ab ba hb hab hba
      exact ih _ (hshorter htext hne) ha' hb hab hba rfl

end

end StablePath
