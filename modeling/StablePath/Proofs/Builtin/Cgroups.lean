import StablePath.Proofs.Builtin.Swap
import StablePath.Proofs.Rule.Composition

/-!
Control groups in components.

A rule for control groups looks for the first text that a group begins with and, behind it, for
the last suffix. What stands between the two it writes over. So it does in each component, and only
once.
-/

namespace StablePath.Builtin

open Pattern

/-! ### The first and the last of them -/

/-- What stands before the first place where a text occurs, and what stands behind it. -/
def cutAt? (lead : List Char) : List Char → Option (List Char × List Char)
  | [] => none
  | c :: text =>
    if lead <+: c :: text then some ([], (c :: text).drop lead.length)
    else (cutAt? lead text).map fun (before, rest) => (c :: before, rest)

/-- Whether a text begins with a suffix of control groups. -/
def IsEnding (text : List Char) : Prop := ∃ suffix ∈ suffixes, suffix <+: text

instance : DecidablePred IsEnding := fun text =>
  inferInstanceAs (Decidable (∃ suffix ∈ suffixes, suffix <+: text))

/-- A text from the last suffix of control groups on. -/
def fromLast? : List Char → Option (List Char)
  | [] => none
  | c :: text =>
    match fromLast? text with
    | some ending => some ending
    | none => if IsEnding (c :: text) then some (c :: text) else none

/-- Writes a star between the first lead of a text and the last suffix behind it. -/
def enclose (lead text : List Char) : List Char :=
  match cutAt? lead text with
  | none => text
  | some (before, rest) =>
    match fromLast? rest with
    | none => text
    | some ending => before ++ lead ++ '*' :: ending

variable {lead before rest text ending out : List Char} {hit : Hit}

lemma not_infix_of_cutAt? (hne : lead ≠ []) (h : cutAt? lead text = none) : ¬ lead <:+: text := by
  induction text with
  | nil => exact fun hin => hne (List.infix_nil.mp hin)
  | cons c text ih =>
    rw [cutAt?] at h
    split_ifs at h with hstart
    rw [Option.map_eq_none_iff] at h
    intro hin
    rcases List.infix_cons_iff.mp hin with hin | hin
    · exact hstart hin
    · exact ih h hin

/-- A text is cut where it has the lead, and nowhere before does the lead begin. -/
lemma eq_of_cutAt? (h : cutAt? lead text = some (before, rest)) :
    text = before ++ (lead ++ rest) ∧
      ∀ s, s ≠ [] → s <:+ before → ¬ lead <+: s ++ (lead ++ rest) := by
  induction text generalizing before with
  | nil => cases h
  | cons c text ih =>
    rw [cutAt?] at h
    split_ifs at h with hstart
    · obtain ⟨rfl, rfl⟩ := Prod.mk.inj (Option.some.inj h)
      refine ⟨List.prefix_iff_eq_append.mp hstart |>.symm, fun s hs hsuffix => ?_⟩
      exact absurd (List.suffix_nil.mp hsuffix) hs
    · obtain ⟨⟨before, rest'⟩, hcut, heq⟩ := Option.map_eq_some_iff.mp h
      obtain ⟨rfl, rfl⟩ := Prod.mk.inj heq
      obtain ⟨rfl, hfirst⟩ := ih hcut
      refine ⟨rfl, fun s hs hsuffix => ?_⟩
      rcases List.suffix_cons_iff.mp hsuffix with rfl | hsuffix
      · exact hstart
      · exact hfirst s hs hsuffix

lemma not_isEnding_nil : ¬ IsEnding [] := by decide

lemma not_isEnding_of_fromLast? (h : fromLast? text = none) : ∀ s, s <:+ text → ¬ IsEnding s := by
  induction text with
  | nil => exact fun s hs => List.suffix_nil.mp hs ▸ not_isEnding_nil
  | cons c text ih =>
    rw [fromLast?] at h
    split at h
    · cases h
    next hnone =>
      split_ifs at h with hending
      intro s hs
      rcases List.suffix_cons_iff.mp hs with rfl | hs
      · exact hending
      · exact ih hnone s hs

lemma isEnding_of_fromLast? (h : fromLast? text = some ending) :
    ending <:+ text ∧ IsEnding ending ∧
      ∀ s, s <:+ text → IsEnding s → ending.length ≤ s.length := by
  induction text with
  | nil => cases h
  | cons c text ih =>
    rw [fromLast?] at h
    split at h
    next ending' hlast =>
      obtain rfl := Option.some.inj h
      obtain ⟨hsuffix, hending, hle⟩ := ih hlast
      refine ⟨hsuffix.trans (List.suffix_cons c text), hending, fun s hs hs' => ?_⟩
      rcases List.suffix_cons_iff.mp hs with rfl | hs
      · exact Nat.le_succ_of_le hsuffix.length_le
      · exact hle s hs hs'
    next hnone =>
      split_ifs at h with hending
      obtain rfl := Option.some.inj h
      refine ⟨List.suffix_rfl, hending, fun s hs hs' => ?_⟩
      rcases List.suffix_cons_iff.mp hs with rfl | hs
      · exact Nat.le_refl _
      · exact absurd hs' (not_isEnding_of_fromLast? hnone s hs)

/-! ### One component -/

variable {name : String}

lemma exists_ending (h : cgroup name hit) : ∃ s, s <:+ hit.text ∧ IsEnding s ∧
    name.toList.length + s.length ≤ hit.text.length := by
  obtain ⟨hlead, -, htail⟩ := cgroup_iff.mp h
  refine ⟨hit.tail ++ hit.rest, ⟨hit.lead ++ hit.span, ?_⟩, ⟨hit.tail, htail, ?_⟩, ?_⟩
  · simp [Hit.text, Hit.taken]
  · exact List.prefix_append _ _
  · simp [Hit.text, Hit.taken, hlead]

/-- A sweep keeps a text with no suffix so far behind that a lead has room before it. -/
lemma eq_of_no_ending
    (hno : ∀ s, s <:+ text → name.toList.length + s.length ≤ text.length → ¬ IsEnding s)
    (h : Pass (cgroup name) star text out) : out = text := by
  unfold Pass at h
  rw [← List.append_nil text] at h
  obtain ⟨out', rfl, hnil⟩ := h.of_no_start fun s _ hs hit hhit htext => by
    obtain ⟨e, he, hending, hlength⟩ := exists_ending hhit.1
    rw [htext, List.append_nil] at he hlength
    exact hno e (he.trans hs) (hlength.trans hs.length_le) hending
  rw [hnil.eq_nil, List.append_nil]

lemma longest_of_fromLast? {middle suffix more : List Char} (hslash : '/' ∉ middle)
    (hsuffix : suffix ∈ suffixes)
    (hlast : fromLast? (middle ++ (suffix ++ more)) = some (suffix ++ more)) :
    Longest (cgroup name) ⟨name.toList, middle, suffix, more⟩ := by
  obtain ⟨-, -, hle⟩ := isEnding_of_fromLast? hlast
  refine ⟨cgroup_iff.mpr ⟨rfl, hslash, hsuffix⟩, fun other hother htext hlead => ?_⟩
  obtain ⟨lead, span, tail, rest⟩ := other
  obtain rfl : lead = name.toList := hlead
  have hsplit : span ++ (tail ++ rest) = middle ++ (suffix ++ more) := by
    simpa [Hit.text, Hit.taken] using htext
  have hbehind := hle (tail ++ rest) ⟨span, hsplit⟩ ⟨tail, hother.tail, List.prefix_append _ _⟩
  have hlength := congrArg List.length hsplit
  simp only [List.length_append] at hbehind hlength
  dsimp only
  omega

/-- **What a sweep over control groups makes of a component.** -/
lemma eq_enclose (hne : name.toList ≠ []) (hslash : '/' ∉ text)
    (h : Pass (cgroup name) star text out) : out = enclose name.toList text := by
  unfold enclose
  split
  next hcut => exact h.eq_of_no_lead (by simpa using not_infix_of_cutAt? hne hcut)
  next before rest hcut =>
    obtain ⟨rfl, hfirst⟩ := eq_of_cutAt? hcut
    -- no match begins before the first lead
    obtain ⟨out, rfl, hsweep⟩ := h.of_no_start fun s hs hsuffix hit hhit htext => by
      refine hfirst s hs hsuffix ?_
      rw [← htext, ← (cgroup_iff.mp hhit.1).1]
      exact hit.lead_isPrefix
    split
    next hlast =>
      rw [eq_of_no_ending (fun s hs hlength => ?_) hsweep]
      refine not_isEnding_of_fromLast? hlast s ?_
      refine List.suffix_of_suffix_length_le hs (List.suffix_append _ _) ?_
      rw [List.length_append] at hlength
      omega
    next ending hlast =>
      obtain ⟨⟨middle, rfl⟩, ⟨suffix, hsuffix, ⟨more, rfl⟩⟩, hle⟩ := isEnding_of_fromLast? hlast
      have hmiddle : '/' ∉ middle := fun hmem => hslash (by simp [hmem])
      have hlongest : Longest (cgroup name) ⟨name.toList, middle, suffix, more⟩ :=
        longest_of_fromLast? hmiddle hsuffix hlast
      have htext : name.toList ++ (middle ++ (suffix ++ more)) =
          (⟨name.toList, middle, suffix, more⟩ : Hit).text := by
        simp [Hit.text, Hit.taken]
      rw [htext] at hsweep
      obtain ⟨out, rfl, hlater⟩ :=
        hsweep.of_hit (exact_cgroup name) hlongest (taken_ne_nil hlongest.1)
      -- behind the last suffix there is no other one
      rw [eq_of_no_ending (fun s hs _ hending => ?_) hlater]
      · simp [star]
      · have hbehind := hle s (hs.trans ⟨middle ++ suffix, by simp⟩) hending
        have hlength : s.length ≤ more.length := hs.length_le
        rw [List.length_append, length_suffix hsuffix] at hbehind
        omega

/-! ### The rules -/

/-- Alone a rule encloses a star behind a lead in each component, if the filesystem is sysfs or not
known. Elsewhere it keeps the path. -/
def Encloses (rule : Rule) (lead : String) : Prop :=
  ∀ sighting path, ∃ reduction, (⟨[rule]⟩ : Ruleset).reduce? sighting path = some reduction ∧
    (OnSysfs sighting.filesystem →
      components reduction.path = (components path).map (enclose lead.toList)) ∧
    (¬ OnSysfs sighting.filesystem → reduction.path = path)

lemma encloses_of_made {rule : Rule} {hint : String}
    (hmade : Made rule (cgroupTerm name) (wildcard 1) (some hint) onSysfs)
    (hname : name ∈ groupLeads) (hhint : Text.occursIn hint.toList name.toList = true) :
    Encloses rule name := by
  have hne := groupLead_ne_nil hname
  intro sighting path
  obtain ⟨reduction, hreduce, hsweeps, hkept⟩ := reduces_of_around hmade OnSysfs passes_onSysfs
    (finds_cgroup name hne) (by simpa using hhint) sighting path
  refine ⟨reduction, by rw [Ruleset.reduce?_one, hreduce], fun hon => ?_, hkept⟩
  have hcomponents := (List.forall₂_and_left _ _).mpr ⟨fun _ => slashless_of_mem_components,
    components_of_sweeps (delimits_cgroup hname) (hsweeps hon)⟩
  have henclose := hcomponents.imp fun c d ⟨hslash, hsweep⟩ => (eq_enclose hne hslash hsweep).symm
  have hmap := List.forall₂_map_left_iff.mpr henclose
  rw [List.forall₂_eq_eq_eq] at hmap
  exact hmap.symm

/-- **The rules for control groups work on each component by itself.** Alone each of them reduces
every path. In a component that has the lead of the rule and a suffix behind it, a star stands for
the text from the end of the first lead to the last suffix; all else is kept. If the filesystem is
known and not sysfs, the path stays. -/
theorem cgroup_rules_enclose :
    (∃ rule, kubernetesPod = .ok rule ∧ Encloses rule "kubepods-") ∧
      ∃ rule, containerd = .ok rule ∧ Encloses rule "cri-containerd-" := by
  obtain ⟨pod, hpod, hmade⟩ := exists_kubernetesPod
  obtain ⟨containerd', hcontainerd, hmade'⟩ := exists_containerd
  exact ⟨⟨pod, hpod, encloses_of_made hmade (by decide) (by decide)⟩,
    containerd', hcontainerd, encloses_of_made hmade' (by decide) (by decide)⟩

/-- The first lead and the last suffix count. -/
example : enclose "kubepods-".toList "kubepods-a.slice-kubepods-b.scope:c".toList =
    "kubepods-*.scope:c".toList := by
  decide

end StablePath.Builtin
