import StablePath.Proofs.Builtin.Swap

/-!
Ids of one length in a component.

Of runs of hexadecimal digits of one length the outcome is one, but for a rest that is too short for
an id. Inside a component that goes for the sweeps over control groups too, where two ids agree at
their ends.
-/

namespace StablePath.Builtin

open Pattern Text

variable {u v id id₁ id₂ out out₁ out₂ : List Char}

/-! ### Runs of one length -/

/-- Two runs of one length have the same rest, if it is too short for an id. -/
def SameRest (id₁ id₂ : List Char) : Prop :=
  id₁.length % 64 < 28 →
    id₁.drop (id₁.length - id₁.length % 64) = id₂.drop (id₁.length - id₁.length % 64)

lemma SameRest.drop (hlength : id₁.length = id₂.length) (h : SameRest id₁ id₂) :
    SameRest (id₁.drop 64) (id₂.drop 64) := by
  unfold SameRest at h ⊢
  rw [List.length_drop]
  by_cases hle : 64 ≤ id₁.length
  · have hmod : (id₁.length - 64) % 64 = id₁.length % 64 := by omega
    have hsum : 64 + (id₁.length - 64 - id₁.length % 64) = id₁.length - id₁.length % 64 := by omega
    rwa [hmod, List.drop_drop, List.drop_drop, hsum]
  · have h₁ : id₁.drop 64 = [] := List.drop_of_length_le (by omega)
    have h₂ : id₂.drop 64 = [] := List.drop_of_length_le (by omega)
    rw [h₁, h₂]
    exact fun _ => rfl

/-- **Runs of one length have one outcome**, if they have the same rest. -/
lemma eq_of_runs (hhex₁ : ∀ c ∈ id₁, isHex c = true) (hhex₂ : ∀ c ∈ id₂, isHex c = true)
    (hlength : id₁.length = id₂.length) (hrest : SameRest id₁ id₂)
    (h₁ : Sweeps IsId NoId star id₁ out₁) (h₂ : Sweeps IsId NoId star id₂ out₂) : out₁ = out₂ := by
  induction hn : id₁.length using Nat.strongRecOn generalizing id₁ id₂ out₁ out₂ with
  | ind n ih =>
  by_cases hlong : 28 ≤ id₁.length
  · obtain ⟨o₁, rfl, hlater₁⟩ := sweeps_of_long hhex₁ hlong h₁
    obtain ⟨o₂, rfl, hlater₂⟩ := sweeps_of_long hhex₂ (hlength ▸ hlong) h₂
    congr 1
    refine ih (id₁.drop 64).length ?_ (fun c hc => hhex₁ c (List.mem_of_mem_drop hc))
      (fun c hc => hhex₂ c (List.mem_of_mem_drop hc)) (by simp [hlength]) (hrest.drop hlength)
      hlater₁ hlater₂ rfl
    rw [List.length_drop]
    omega
  · have hmod : id₁.length % 64 = id₁.length := Nat.mod_eq_of_lt (by omega)
    have hsame := hrest (by omega)
    rw [hmod, Nat.sub_self, List.drop_zero, List.drop_zero] at hsame
    rw [sweeps_of_short hhex₁ (by omega) h₁, sweeps_of_short hhex₂ (by omega) h₂, hsame]

/-! ### Between other characters -/

lemma eq_of_sweeps_id (hhex₁ : ∀ c ∈ id₁, isHex c = true) (hhex₂ : ∀ c ∈ id₂, isHex c = true)
    (hlength : id₁.length = id₂.length) (hrest : SameRest id₁ id₂)
    (hu : ∀ c ∈ u.getLast?, isHexOrHyphen c = false) (hv : ∀ c ∈ v.head?, isHexOrHyphen c = false)
    (h₁ : Sweeps IsId NoId star (u ++ (id₁ ++ v)) out₁)
    (h₂ : Sweeps IsId NoId star (u ++ (id₂ ++ v)) out₂) : out₁ = out₂ := by
  have hback : ∀ {o₁ o₂}, Sweeps IsId NoId star (id₁ ++ v) o₁ →
      Sweeps IsId NoId star (id₂ ++ v) o₂ → o₁ = o₂ := by
    intro o₁ o₂ h₁ h₂
    cases v with
    | nil =>
      rw [List.append_nil] at h₁ h₂
      exact eq_of_runs hhex₁ hhex₂ hlength hrest h₁ h₂
    | cons d v =>
      have hd := delimits_id (hv d rfl)
      obtain ⟨a₁, b₁, rfl, ha₁, hb₁⟩ := hd.split h₁
      obtain ⟨a₂, b₂, rfl, ha₂, hb₂⟩ := hd.split h₂
      rw [eq_of_runs hhex₁ hhex₂ hlength hrest ha₁ ha₂, hb₁.unique exact_id hb₂]
  rcases List.eq_nil_or_concat' u with rfl | ⟨u, d, rfl⟩
  · exact hback h₁ h₂
  · rw [List.append_assoc] at h₁ h₂
    have hd := delimits_id (hu d (by simp))
    obtain ⟨a₁, b₁, rfl, ha₁, hb₁⟩ := hd.split h₁
    obtain ⟨a₂, b₂, rfl, ha₂, hb₂⟩ := hd.split h₂
    rw [ha₁.unique exact_id ha₂, hback hb₁ hb₂]

/-! ### Under stars -/

section

variable {W : List Char → List Char → Prop} {before text : List Char}

lemma last_of_masks {q : Char → Bool} (hstar : q '*' = false) (h : Masks W before text out)
    (htext : ∀ c ∈ text.getLast?, q c = false) : ∀ c ∈ out.getLast?, q c = false := by
  rcases List.eq_nil_or_concat' out with rfl | ⟨front, d, rfl⟩
  · simp
  · obtain ⟨front', t, rfl, -, hlast⟩ := h.split
    cases hlast with
    | keep _ later =>
      cases later
      simpa using htext
    | mask => simpa using hstar

lemma head_of_masks {q : Char → Bool} (hstar : q '*' = false) (h : Masks W before text out)
    (htext : ∀ c ∈ text.head?, q c = false) : ∀ c ∈ out.head?, q c = false := by
  cases h with
  | nil => simp
  | keep c _ => exact htext
  | mask => simpa using hstar

end

variable {lead : String} {u' v' : List Char}

lemma AgreeBefore.of_masks (hlead : lead ∈ groupLeads) {W : List Char → List Char → Prop}
    (h : AgreeBefore lead u id₁ id₂) (hmasks : Masks W [] u u') : AgreeBefore lead u' id₁ id₂ := by
  obtain ⟨-, -, -, -, hstar⟩ := groupLead_facts lead hlead
  -- a suffix that ends in the id has no star, so its beginning stood there before
  have hone : ∀ {a b}, AgreeBefore lead u a b → ∀ y q, lead.toList ++ y ++ q <:+ u' →
      ∀ suffix ∈ suffixes, suffix <+: q ++ a → suffix <+: q ++ b := by
    rintro a b hagree y q ⟨x, rfl⟩ suffix hsuffix hstart
    obtain ⟨rest, hrest⟩ := hstart
    rcases List.append_eq_append_iff.mp hrest with ⟨p, rfl, -⟩ | ⟨more, hmore, -⟩
    · rw [List.append_assoc]
      exact List.prefix_append _ _
    · have hq : '*' ∉ q := fun hmem => not_mem_suffix hsuffix (by simp [hmore, hmem])
      rw [List.append_assoc lead.toList] at hmasks
      obtain ⟨x', t₁, rfl, -, h₁⟩ := hmasks.split
      obtain ⟨t₂, rfl, h₂⟩ := h₁.split_of_not_mem hstar
      obtain ⟨y', t₃, rfl, -, h₃⟩ := h₂.split
      obtain rfl := h₃.eq_of_not_mem hq
      exact (hagree y' t₃ ⟨x', by simp⟩ suffix hsuffix).mp ⟨rest, hrest⟩
  exact fun y q hq suffix hsuffix =>
    ⟨hone h y q hq suffix hsuffix, hone h.symm y q hq suffix hsuffix⟩

lemma AgreeBehind.of_stars (hlead : lead ∈ groupLeads) (h : AgreeBehind lead v id₁ id₂)
    (hstars : Stars [] v v') : AgreeBehind lead v' id₁ id₂ := by
  obtain ⟨-, -, -, -, hstar⟩ := groupLead_facts lead hlead
  have hback : ∀ c, NoHit (cgroup lead) (c :: v) → NoHit (cgroup lead) (c :: v') := by
    intro c hnone hit htext hhit
    obtain ⟨hhead, hspan, htail⟩ := cgroup_iff.mp hhit
    have hmasks : Stars [] (c :: v) hit.text := by
      rw [htext]
      exact .keep c (hstars.stars (fun _ _ => id) _)
    rw [Hit.text, Hit.taken, hhead] at hmasks
    obtain ⟨x', rest', hv, hx', -⟩ :=
      exists_cgroup_of_masks (fun _ _ => id) hstar htail hspan hmasks
    refine hnone ⟨lead.toList, x', hit.tail, rest'⟩ ?_ (cgroup_iff.mpr ⟨rfl, hx', htail⟩)
    simp [hv, Hit.text, Hit.taken]
  exact fun c₁ hc₁ c₂ hc₂ hne => (h c₁ hc₁ c₂ hc₂ hne).imp (hback c₁) (hback c₂)

/-! ### The three sweeps -/

lemma noHit_pod {c : Char} (hc : isHex c = true) (v : List Char) :
    NoHit (cgroup "kubepods-") (c :: v) := by
  intro hit htext hhit
  rw [Hit.text, Hit.taken, (cgroup_iff.mp hhit).1] at htext
  obtain ⟨rfl, -⟩ := List.cons.inj htext
  revert hc
  decide

/-- A control group lies around what stands between two texts of a component. -/
def Enclosed (u v : List Char) : Prop :=
  (∃ lead ∈ groupLeads, lead.toList <:+: u) ∧ ∃ suffix ∈ suffixes, suffix <:+: v

section

variable (hid₁ : Digits id₁) (hid₂ : Digits id₂) (hlength : id₁.length = id₂.length)

include hid₁ hid₂ hlength

/-- Where the text of one control group is missing, no sweep over it changes what is before an
id. -/
lemma sweeps_of_absent {lead : String} (hlead : lead ∈ groupLeads) (habsent : ¬ lead.toList <:+: u)
    (hagree : AgreeBehind lead v id₁ id₂)
    (h₁ : Pass (cgroup lead) star (u ++ (id₁ ++ v)) out₁)
    (h₂ : Pass (cgroup lead) star (u ++ (id₂ ++ v)) out₂) :
    out₁ = out₂ ∨ ∃ v', out₁ = u ++ (id₁ ++ v') ∧ out₂ = u ++ (id₂ ++ v') ∧
      ((∃ suffix ∈ suffixes, suffix <:+: v) → ∃ suffix ∈ suffixes, suffix <:+: v') := by
  have hbefore : AgreeBefore lead u id₁ id₂ := by
    rintro y q ⟨x, rfl⟩
    exact absurd ⟨x, y ++ q, by simp⟩ habsent
  refine (sweeps_of_ids hlead hid₁ hid₂ hlength hbefore hagree h₁ h₂).imp_right ?_
  rintro ⟨u', v', rfl, rfl, hmasks, -, hsuffix⟩
  obtain rfl : u' = u := by
    refine (hmasks []).eq_of_uncovered ?_
    rintro x old y rfl ⟨⟨_, hmem, front, hfront⟩, -, -⟩
    rw [List.mem_singleton.mp hmem] at hfront
    exact habsent ⟨front, old ++ y, by simpa using congrArg (· ++ (old ++ y)) hfront⟩
  exact ⟨v', rfl, rfl, hsuffix⟩

lemma eq_of_enclosed (hu : '/' ∉ u) (hv : '/' ∉ v) (henclosed : Enclosed u v)
    {c₁ c₂ d₁ d₂ : List Char}
    (hpod₁ : Pass (cgroup "kubepods-") star (u ++ (id₁ ++ v)) c₁)
    (hpod₂ : Pass (cgroup "kubepods-") star (u ++ (id₂ ++ v)) c₂)
    (hcontainerd₁ : Pass (cgroup "cri-containerd-") star c₁ d₁)
    (hcontainerd₂ : Pass (cgroup "cri-containerd-") star c₂ d₂) : d₁ = d₂ := by
  obtain ⟨⟨lead, hlead, hin⟩, hsuffix⟩ := henclosed
  have hunique : c₁ = c₂ → d₁ = d₂ := by
    rintro rfl
    exact hcontainerd₁.unique (exact_cgroup _) hcontainerd₂
  by_cases hpods : "kubepods-".toList <:+: u
  · exact hunique (sweeps_of_covered (by decide) hid₁ hid₂ hlength hu hv hpods hsuffix hpod₁ hpod₂)
  · -- the second sweep covers them, since the first one changes nothing before them
    have hbehind : AgreeBehind "kubepods-" v id₁ id₂ := fun c₁ hc₁ c₂ hc₂ _ =>
      ⟨noHit_pod (hid₁.hex c₁ (List.mem_of_getLast? hc₁)) v,
        noHit_pod (hid₂.hex c₂ (List.mem_of_getLast? hc₂)) v⟩
    rcases sweeps_of_absent hid₁ hid₂ hlength (by decide) hpods hbehind hpod₁ hpod₂
      with heq | ⟨v', rfl, rfl, hkept⟩
    · exact hunique heq
    · have hin' : "cri-containerd-".toList <:+: u := by
        rcases List.mem_cons.mp hlead with rfl | hlead
        · exact absurd hin hpods
        · rwa [List.mem_singleton.mp hlead] at hin
      have hv' : '/' ∉ v' := by
        have hslash : '/' ∉ id₁ := fun hmem => absurd (hid₁.hex _ hmem) (by decide)
        have hout := hpod₁.not_mem (d := '/') (by decide) (by simp [hu, hv, hslash])
        simp only [List.mem_append, not_or] at hout
        exact hout.2.2
      exact sweeps_of_covered (by decide) hid₁ hid₂ hlength hu hv' hin' (hkept hsuffix)
        hcontainerd₁ hcontainerd₂

/-- What ids have to share for one outcome between two texts. -/
structure Same (filesystem : Option String) (u v id₁ id₂ : List Char) : Prop where
  rest : SameRest id₁ id₂
  before : OnSysfs filesystem → ∀ lead ∈ groupLeads, AgreeBefore lead u id₁ id₂
  behind : OnSysfs filesystem → ∀ lead ∈ groupLeads, AgreeBehind lead v id₁ id₂

omit hid₁ hid₂ hlength in
lemma same_of_alone {filesystem : Option String} (hrest : SameRest id₁ id₂) :
    Same filesystem [] [] id₁ id₂ where
  rest := hrest
  before _ lead hlead y q hin := by
    have hnil := List.suffix_nil.mp hin
    simp only [List.append_assoc, List.append_eq_nil_iff] at hnil
    exact absurd hnil.1 (groupLead_ne_nil hlead)
  behind _ lead hlead c₁ _ c₂ _ _ := by
    have hlong : ∀ lead ∈ groupLeads, 1 < lead.toList.length := by decide
    have hno : ∀ c, NoHit (cgroup lead) [c] := by
      intro c hit htext hhit
      have hle := hit.lead_isPrefix.length_le
      rw [htext, (cgroup_iff.mp hhit).1, List.length_singleton] at hle
      exact absurd (hlong lead hlead) (Nat.not_lt.mpr hle)
    exact ⟨hno c₁, hno c₂⟩

/-- **The sweeps inside components make one outcome of two ids** that share what they have to, or
that lie in a control group. -/
theorem eq_of_inside_ids {filesystem : Option String} (hu : '/' ∉ u) (hv : '/' ∉ v)
    (hulast : ∀ c ∈ u.getLast?, isHexOrHyphen c = false)
    (hvhead : ∀ c ∈ v.head?, isHexOrHyphen c = false)
    (hids : OnSysfs filesystem ∧ Enclosed u v ∨ Same filesystem u v id₁ id₂)
    (h₁ : Inside filesystem (u ++ (id₁ ++ v)) out₁)
    (h₂ : Inside filesystem (u ++ (id₂ ++ v)) out₂) : out₁ = out₂ := by
  obtain ⟨pod₁, containerd₁, hsweep₁⟩ := h₁
  obtain ⟨pod₂, containerd₂, hsweep₂⟩ := h₂
  rcases hids with ⟨hon, henclosed⟩ | ⟨hrest, hbefore, hbehind⟩
  · -- a control group covers both ids
    obtain rfl := eq_of_enclosed hid₁ hid₂ hlength hu hv henclosed (pod₁.1 hon) (pod₂.1 hon)
      (containerd₁.1 hon) (containerd₂.1 hon)
    exact hsweep₁.unique exact_id hsweep₂
  by_cases hon : OnSysfs filesystem
  · rcases sweeps_of_ids (by decide) hid₁ hid₂ hlength (hbefore hon _ List.mem_cons_self)
      (hbehind hon _ List.mem_cons_self) (pod₁.1 hon) (pod₂.1 hon)
      with rfl | ⟨u', v', rfl, rfl, hmasks, hstars, -⟩
    · obtain rfl := containerd₁.unique (exact_cgroup _) containerd₂
      exact hsweep₁.unique exact_id hsweep₂
    -- the first sweep has kept both, and what they agree on
    have hlead : "cri-containerd-" ∈ groupLeads := by decide
    rcases sweeps_of_ids hlead hid₁ hid₂ hlength ((hbefore hon _ hlead).of_masks hlead (hmasks []))
      ((hbehind hon _ hlead).of_stars hlead hstars) (containerd₁.1 hon) (containerd₂.1 hon)
      with rfl | ⟨u'', v'', rfl, rfl, hmasks', hstars', -⟩
    · exact hsweep₁.unique exact_id hsweep₂
    · have hulast' := last_of_masks (by decide) (hmasks []) hulast
      have hvhead' := head_of_masks (by decide) hstars hvhead
      exact eq_of_sweeps_id hid₁.hex hid₂.hex hlength hrest
        (last_of_masks (by decide) (hmasks' []) hulast') (head_of_masks (by decide) hstars' hvhead')
        hsweep₁ hsweep₂
  · -- off sysfs only the sweep over ids acts
    obtain rfl := containerd₁.2 hon
    obtain rfl := containerd₂.2 hon
    obtain rfl := pod₁.2 hon
    obtain rfl := pod₂.2 hon
    exact eq_of_sweeps_id hid₁.hex hid₂.hex hlength hrest hulast hvhead hsweep₁ hsweep₂

end

end StablePath.Builtin
