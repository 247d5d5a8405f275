import Mathlib.Data.List.Infix
import StablePath.Proofs.Builtin.Passes

/-!
What a reduction leaves behind.

Each sweep removes its own kind of name from a path. The later ones only put stars over letters,
digits and signs inside a component, so none of them brings such a name back.
-/

namespace StablePath.Builtin

open Pattern Text

/-! ### What stars cover -/

/-- After one of some texts, at least `lo` characters of a class. -/
structure Under (leads : List (List Char)) (lo : Nat) (p : Char → Bool)
    (before old : List Char) : Prop where
  lead : ∃ lead ∈ leads, lead <:+ before
  enough : lo ≤ old.length
  span : ∀ c ∈ old, p c = true

lemma Pass.masks {leads tails : List (List Char)} {lo : Nat} {p : Char → Bool}
    {text out : List Char} (h : Pass (Around leads lo p tails) star text out)
    (before : List Char) : Masks (Under leads lo p) before text out := by
  refine Sweeps.masks (fun before hit hlongest => ?_) h before
  obtain ⟨hlead, henough, hspan, -⟩ := hlongest.1
  exact ⟨⟨hit.lead, hlead, List.suffix_append _ _⟩, henough, hspan⟩

lemma masks_of_sweeps_id {text out : List Char}
    (h : Sweeps IsId NoId star text out) :
    Masks (Under [[]] 28 isHexOrHyphen) [] text out := by
  refine Sweeps.masks (fun before hit hid => ?_) h []
  obtain ⟨w, hw, hcore⟩ := hid.isContainerId.core
  refine ⟨⟨[], List.mem_singleton_self _, List.nil_suffix⟩, ?_, hid.isContainerId.chars⟩
  rw [← hcore.length_eq]
  exact hw.length_le

/-- Something is covered, and it has no star and no slash in it. -/
def Plain (W : List Char → List Char → Prop) : Prop :=
  ∀ before old, W before old → old ≠ [] ∧ '*' ∉ old ∧ '/' ∉ old

lemma plain_under {leads : List (List Char)} {lo : Nat} {p : Char → Bool} (hlo : 0 < lo)
    (hstar : p '*' = false) (hslash : p '/' = false) : Plain (Under leads lo p) := by
  rintro before old ⟨-, henough, hspan⟩
  refine ⟨List.ne_nil_of_length_pos (by omega), fun hmem => ?_, fun hmem => ?_⟩
  · rw [hspan _ hmem] at hstar
    cases hstar
  · rw [hspan _ hmem] at hslash
    cases hslash

/-! ### Ids, numbers and tokens -/

lemma slashless_cgroup {leads : List (List Char)} {before old : List Char}
    (h : Under leads 0 (· != '/') before old) : '/' ∉ old := fun hmem => by
  simpa using h.span _ hmem

variable {text out : List Char}

lemma no_core_of_sweeps (h : Sweeps IsId NoId star text out) :
    ∀ w, IsCore w → ¬ w <:+: out := by
  refine h.not_isInfix (fun w hw => hw.ne_star)
    (fun text hnone w hw hstart => hnone.noContainerId w hstart hw) ?_
  intro hit hid
  refine ⟨hid.tail, fun w hw hin => hw.ne_star.1 ?_⟩
  rw [hid.lead] at hin
  exact List.infix_nil.mp hin

/-- One of some texts and a character of a class right after it. -/
def Followed (leads : List (List Char)) (p : Char → Bool) (w : List Char) : Prop :=
  ∃ lead ∈ leads, ∃ c, p c = true ∧ w = lead ++ [c]

lemma Followed.ne_star {leads : List (List Char)} {p : Char → Bool} (hstar : p '*' = false)
    (hleads : ∀ lead ∈ leads, '*' ∉ lead) {w : List Char} (h : Followed leads p w) :
    w ≠ [] ∧ '*' ∉ w := by
  obtain ⟨lead, hlead, c, hc, rfl⟩ := h
  refine ⟨by simp, fun hmem => ?_⟩
  rcases List.mem_append.mp hmem with hmem | hmem
  · exact hleads lead hlead hmem
  · rw [← List.mem_singleton.mp hmem, hstar] at hc
    cases hc

lemma not_followed_of_pass {leads : List (List Char)} {p : Char → Bool}
    (hstar : p '*' = false) (hleads : ∀ lead ∈ leads, '*' ∉ lead)
    (hapart : ∀ lead ∈ leads, ∀ w, Followed leads p w → ¬ w <:+: lead)
    (h : Pass (Around leads 1 p [[]]) star text out) : ∀ w, Followed leads p w → ¬ w <:+: out := by
  refine Sweeps.not_isInfix (fun w hw => hw.ne_star hstar hleads) ?_ ?_ h
  · rintro text hnone w ⟨lead, hlead, c, hc, rfl⟩ ⟨rest, rfl⟩
    refine hnone ⟨lead, [c], [], rest⟩ (by simp [Hit.text, Hit.taken]) ⟨hlead, ?_, ?_, ?_⟩
    · exact Nat.le_refl 1
    · simpa using hc
    · exact List.mem_singleton_self _
  · rintro hit ⟨⟨hlead, -, -, htail⟩, -⟩
    exact ⟨List.mem_singleton.mp htail, hapart hit.lead hlead⟩

/-! ### Control groups -/

/-- Between a text and a suffix of a control group nothing but a star stands in a component. -/
def Starred (lead : String) (text : List Char) : Prop :=
  ∀ x, ∀ suffix ∈ suffixes, '/' ∉ x → lead.toList ++ x ++ suffix <:+: text → x = ['*']

lemma exists_eq_dot_cons {suffix : List Char} (h : suffix ∈ suffixes) :
    ∃ more, suffix = '.' :: more := by
  rcases List.mem_cons.mp h with rfl | h
  · exact ⟨_, rfl⟩
  · rw [List.mem_singleton.mp h]
    exact ⟨_, rfl⟩

lemma not_mem_suffix {suffix : List Char} (h : suffix ∈ suffixes) : '*' ∉ suffix := by
  revert suffix
  decide

/-- Lifting the stars off a text with a control group in it gives such a text again. -/
lemma exists_cgroup_of_masks {W : List Char → List Char → Prop}
    (hslash : ∀ before old, W before old → '/' ∉ old) {lead x suffix rest : List Char}
    {before : List Char} (hlead : '*' ∉ lead) (hsuffix : suffix ∈ suffixes) (hx : '/' ∉ x)
    (h : Masks W before text (lead ++ x ++ suffix ++ rest)) :
    ∃ x' rest', text = lead ++ x' ++ suffix ++ rest' ∧ '/' ∉ x' ∧ Masks W (before ++ lead) x' x := by
  rw [List.append_assoc, List.append_assoc] at h
  obtain ⟨text', rfl, hmore⟩ := h.split_of_not_mem hlead
  obtain ⟨x', text'', rfl, hmid, hlast⟩ := hmore.split
  obtain ⟨rest', rfl, -⟩ := hlast.split_of_not_mem (not_mem_suffix hsuffix)
  exact ⟨x', rest', by simp, hmid.not_mem hslash hx, hmid⟩

/-- What is covered right after the text of a control group is neither nothing nor the star. -/
lemma Starred.of_masks {W : List Char → List Char → Prop} {lead : String}
    (hslash : ∀ before old, W before old → '/' ∉ old) (hlead : '*' ∉ lead.toList)
    (hafter : ∀ before, ¬ W (before ++ lead.toList) [] ∧ ¬ W (before ++ lead.toList) ['*'])
    (hstar : ∀ before, ¬ W (before ++ lead.toList ++ ['*']) [])
    (h : Starred lead text) (hmasks : Masks W [] text out) : Starred lead out := by
  rintro x suffix hsuffix hx ⟨front, rest, rfl⟩
  have hassoc : front ++ (lead.toList ++ x ++ suffix) ++ rest =
      front ++ (lead.toList ++ x ++ suffix ++ rest) := by simp
  rw [hassoc] at hmasks
  obtain ⟨front', text', rfl, -, hmore⟩ := hmasks.split
  obtain ⟨x', rest', rfl, hx', hmid⟩ := exists_cgroup_of_masks hslash hlead hsuffix hx hmore
  obtain rfl : x' = ['*'] := h x' suffix hsuffix hx' ⟨front', rest', by simp⟩
  exact hmid.eq_star (hafter front).1 (hafter front).2 (hstar front) rfl

lemma Starred.of_plain {W : List Char → List Char → Prop} {lead : String} (hW : Plain W)
    (hlead : '*' ∉ lead.toList) (h : Starred lead text) (hmasks : Masks W [] text out) :
    Starred lead out := by
  refine h.of_masks (fun _ old hold => (hW _ old hold).2.2) hlead ?_ ?_ hmasks
  · exact fun before => ⟨fun hold => (hW _ _ hold).1 rfl,
      fun hold => (hW _ _ hold).2.1 (List.mem_singleton_self _)⟩
  · exact fun before hold => (hW _ _ hold).1 rfl

/-- No other control group begins where the text of this one ends, with or without its star. -/
lemma Starred.of_pass_other {lead other : String} (hlead : '*' ∉ lead.toList)
    (hother : ¬ lead.toList <:+ other.toList) (hlong : lead.toList.length ≤ other.toList.length)
    (hlast : ¬ ['*'] <:+ other.toList) (hne : other.toList ≠ []) (h : Starred lead text)
    (hpass : Pass (cgroup other) star text out) : Starred lead out := by
  refine h.of_masks (fun _ _ => slashless_cgroup) hlead ?_ ?_ (hpass.masks [])
  · have hno : ∀ before old, ¬ Under [other.toList] 0 (· != '/') (before ++ lead.toList) old := by
      rintro before old ⟨⟨_, hmem, hsuffix⟩, -, -⟩
      obtain rfl := List.mem_singleton.mp hmem
      exact hother (List.suffix_of_suffix_length_le (List.suffix_append _ _) hsuffix hlong)
    exact fun before => ⟨hno before [], hno before ['*']⟩
  · rintro before ⟨⟨_, hmem, hsuffix⟩, -, -⟩
    obtain rfl := List.mem_singleton.mp hmem
    refine hlast (List.suffix_of_suffix_length_le (List.suffix_append _ _) hsuffix ?_)
    exact List.length_pos_iff.mpr hne

/-- Where a word may begin that is found over the end of a block. -/
lemma infix_append_cases {w a b : List Char} (h : w <:+: a ++ b) :
    (∃ s, s ≠ [] ∧ s <:+ a ∧ w <+: s ++ b) ∨ w <:+: b := by
  induction a with
  | nil => exact Or.inr h
  | cons c a ih =>
    rcases List.infix_cons_iff.mp h with hw | hw
    · exact Or.inl ⟨c :: a, by simp, List.suffix_rfl, hw⟩
    · rcases ih hw with ⟨s, hne, hs, hw⟩ | hw
      · exact Or.inl ⟨s, hne, hs.trans (List.suffix_cons c a), hw⟩
      · exact Or.inr hw

/-- The text of a control group cannot begin inside what its own match leaves. -/
def NoOverlap (lead : String) : Prop :=
  ∀ suffix ∈ suffixes, ∀ s ∈ (lead.toList ++ '*' :: suffix).tails, s ≠ [] →
    s ≠ lead.toList ++ '*' :: suffix → ¬ lead.toList <+: s ∧ ¬ s <+: lead.toList

instance (lead : String) : Decidable (NoOverlap lead) := by
  unfold NoOverlap
  infer_instance

/-- Behind the star of a match there is no suffix but the one that it ends with. -/
lemma eq_star_of_longest {lead : String} {span tail : List Char}
    (hlongest : Longest (cgroup lead) ⟨lead.toList, span, tail, text⟩)
    (hlater : Pass (cgroup lead) star text out) {x suffix : List Char} (hsuffix : suffix ∈ suffixes)
    (hx : '/' ∉ x) (hstart : x ++ suffix <+: '*' :: tail ++ out) : x = ['*'] := by
  obtain ⟨⟨-, -, hspan, htail⟩, hlongest⟩ := hlongest
  obtain ⟨more, rfl⟩ := exists_eq_dot_cons hsuffix
  obtain ⟨more', rfl⟩ := exists_eq_dot_cons htail
  rcases x with _ | ⟨c, _ | ⟨d, x⟩⟩
  · cases (List.cons_prefix_cons.mp hstart).1
  · rw [(List.cons_prefix_cons.mp hstart).1]
  · -- the rest of `x` would have been taken by the match, up to the suffix
    exfalso
    obtain ⟨rfl, rest, hrest⟩ := List.cons_prefix_cons.mp hstart
    obtain ⟨rfl, -⟩ := List.cons.inj hrest
    have hx' : '/' ∉ '.' :: x := fun hmem => hx (List.mem_cons_of_mem _ hmem)
    have hmasks := Masks.kept ('.' :: more') (hlater.masks ([] ++ '.' :: more'))
    have hsplit : '.' :: more' ++ out = [] ++ ('.' :: x) ++ ('.' :: more) ++ rest := by
      rw [List.nil_append]
      exact hrest.symm
    rw [hsplit] at hmasks
    obtain ⟨x', rest', htext, hx'', hmid⟩ :=
      exists_cgroup_of_masks (fun _ _ => slashless_cgroup) (by simp) hsuffix hx' hmasks
    have hpos : 0 < x'.length := by
      cases hmid
      simp
    have hle := hlongest ⟨lead.toList, span ++ x', '.' :: more, rest'⟩
      ⟨List.mem_singleton_self _, Nat.zero_le _, ?_, hsuffix⟩ ?_ rfl
    · simp only [List.length_append] at hle
      omega
    · intro c hc
      rcases List.mem_append.mp hc with hc | hc
      · exact hspan c hc
      · simpa using fun heq : c = '/' => hx'' (heq ▸ hc)
    · simpa [Hit.text, Hit.taken] using htext.symm

lemma Starred.of_pass {lead : String} (hlead : '*' ∉ lead.toList) (hoverlap : NoOverlap lead)
    (h : Pass (cgroup lead) star text out) : Starred lead out := by
  unfold Pass at h
  induction h with
  | done =>
    intro x suffix hsuffix _ hin
    have hnil := List.infix_nil.mp hin
    obtain ⟨-, rfl⟩ := List.append_eq_nil_iff.mp hnil
    exact absurd hsuffix (by decide)
  | @skip c text out none later ih =>
    intro x suffix hsuffix hx hin
    rcases List.infix_cons_iff.mp hin with ⟨rest, hrest⟩ | hin
    · -- lifting the stars gives a match where the sweep has found none
      have hmasks := Pass.masks (.skip none later) []
      rw [← hrest] at hmasks
      obtain ⟨x', rest', htext, hx', -⟩ :=
        exists_cgroup_of_masks (fun _ _ => slashless_cgroup) hlead hsuffix hx hmasks
      refine absurd ?_ (none ⟨lead.toList, x', suffix, rest'⟩ htext.symm)
      refine ⟨List.mem_singleton_self _, Nat.zero_le _, fun c hc => ?_, hsuffix⟩
      simpa using fun heq : c = '/' => hx' (heq ▸ hc)
    · exact ih x suffix hsuffix hx hin
  | @hit hit out found ne later ih =>
    obtain ⟨⟨hhead, -, hspan, htail⟩, hlongest⟩ := found
    obtain ⟨lead', span, tail, text⟩ := hit
    obtain rfl : lead' = lead.toList := List.mem_singleton.mp hhead
    intro x suffix hsuffix hx hin
    have hblock : lead.toList ++ star span ++ tail ++ out =
        (lead.toList ++ '*' :: tail) ++ out := by simp [star]
    rw [hblock] at hin
    rcases infix_append_cases hin with ⟨s, hne, hs, hw⟩ | hin
    · by_cases hwhole : s = lead.toList ++ '*' :: tail
      · subst hwhole
        rw [List.append_assoc, List.append_assoc] at hw
        refine eq_star_of_longest ⟨⟨hhead, Nat.zero_le _, hspan, htail⟩, hlongest⟩ later hsuffix hx ?_
        exact (List.prefix_append_right_inj _).mp hw
      · -- the lead would begin inside the block
        have hmem := (List.mem_tails _ _).mpr hs
        obtain ⟨hno, hno'⟩ := hoverlap tail htail s hmem hne hwhole
        have hstart : lead.toList <+: s ++ out := by
          refine List.IsPrefix.trans ⟨x ++ suffix, ?_⟩ hw
          rw [List.append_assoc]
        rcases List.prefix_or_prefix_of_prefix hstart (List.prefix_append s out) with h | h
        · exact absurd h hno
        · exact absurd h hno'
    · exact ih x suffix hsuffix hx hin

/-! ### The whole reduction -/

/-- A path without anything that the last five rules are about. -/
structure Clean (filesystem : Option String) (path : List Char) : Prop where
  ids : ∀ w, IsCore w → ¬ w <:+: path
  tokens : ∀ w, Followed [tokenLead] isTokenChar w → ¬ w <:+: path
  devices : OnSysfs filesystem → ∀ w, Followed deviceLeads Char.isDigit w → ¬ w <:+: path
  pods : OnSysfs filesystem → Starred "kubepods-" path
  containers : OnSysfs filesystem → Starred "cri-containerd-" path

lemma plain_id : Plain (Under [[]] 28 isHexOrHyphen) :=
  plain_under (by decide) (by decide) (by decide)

lemma plain_device : Plain (Under deviceLeads 1 Char.isDigit) :=
  plain_under (by decide) (by decide) (by decide)

lemma plain_token : Plain (Under [tokenLead] 1 isTokenChar) :=
  plain_under (by decide) (by decide) (by decide)

lemma not_token_of_pass (h : Pass token star text out) :
    ∀ w, Followed [tokenLead] isTokenChar w → ¬ w <:+: out := by
  refine not_followed_of_pass (by decide) (by decide) ?_ h
  rintro lead hlead w ⟨lead', hlead', c, -, rfl⟩ hin
  rw [List.mem_singleton.mp hlead, List.mem_singleton.mp hlead'] at hin
  have hle := hin.length_le
  simp at hle

lemma not_device_of_pass (h : Pass device star text out) :
    ∀ w, Followed deviceLeads Char.isDigit w → ¬ w <:+: out := by
  refine not_followed_of_pass (by decide) (by decide) ?_ h
  rintro lead hlead w ⟨lead', -, c, hc, rfl⟩ hin
  -- no digit is in what numbers follow
  have hmem : c ∈ lead := hin.subset (by simp)
  have hall : ∀ lead ∈ deviceLeads, lead.any Char.isDigit = false := by decide
  exact List.any_eq_false.mp (hall lead hlead) c hmem hc

theorem clean_of_passes {sighting : Sighting} {path : List Char} (h : Passes sighting path out) :
    Clean sighting.filesystem out := by
  cases h with
  | @mk a b c d e f _ _ _ pod containerd id' device token =>
  have hid := masks_of_sweeps_id id'
  have htoken := token.masks []
  have hdevice : OnSysfs sighting.filesystem → Masks (Under deviceLeads 1 Char.isDigit) [] e f :=
    fun hon => (device.1 hon).masks []
  -- what the sweep over control groups leaves stays under the three sweeps after it
  have hlast : ∀ lead : String, '*' ∉ lead.toList → OnSysfs sighting.filesystem →
      Starred lead d → Starred lead out := by
    intro lead hlead hon hstarred
    have he := hstarred.of_plain plain_id hlead hid
    have hf := he.of_plain plain_device hlead (hdevice hon)
    exact hf.of_plain plain_token hlead htoken
  refine ⟨fun w hw hin => ?_, not_token_of_pass token, fun hon w hw hin => ?_, fun hon => ?_,
    fun hon => ?_⟩
  · have hin := htoken.infix_of hw.ne_star.2 hin
    by_cases hon : OnSysfs sighting.filesystem
    · exact no_core_of_sweeps id' w hw ((hdevice hon).infix_of hw.ne_star.2 hin)
    · rw [device.2 hon] at hin
      exact no_core_of_sweeps id' w hw hin
  · have hstar := (hw.ne_star (by decide) (by decide)).2
    exact not_device_of_pass (device.1 hon) w hw (htoken.infix_of hstar hin)
  · have hpod : Starred "kubepods-" c := Starred.of_pass (by decide) (by decide +kernel) (pod.1 hon)
    have hpod' : Starred "kubepods-" d := hpod.of_pass_other (by decide) (by decide)
      (by decide) (by decide) (by decide) (containerd.1 hon)
    exact hlast _ (by decide) hon hpod'
  · have hcontainerd : Starred "cri-containerd-" d :=
      Starred.of_pass (by decide) (by decide +kernel) (containerd.1 hon)
    exact hlast _ (by decide) hon hcontainerd

lemma matchesIn_containerId {rule : Rule} (hrule : containerId = .ok rule)
    (h : ∀ w, IsCore w → ¬ w <:+: out) : rule.matchesIn out = [] := by
  obtain ⟨rule', hrule', hmade⟩ := exists_containerId
  obtain rfl : rule = rule' := Except.ok.inj (hrule.symm.trans hrule')
  by_contra hfound
  obtain ⟨hit, hid, hsuffix⟩ := Rule.exists_hit_of_matchesIn (hmade.term_eq ▸ finds_id) hfound
  obtain ⟨w, hcore, hin⟩ := hid.isContainerId.exists_core hsuffix
  exact h w hcore hin

/-- **No volatile name survives a reduction.** There is no container id in the outcome and nothing
that begins like the number of a token. Unless the file is known not to be on sysfs, no virtual
block device has its number, and of a control group only a star is left. -/
theorem reduce?_leaves_no_name : ∃ rules, ruleset = .ok rules ∧ ∀ sighting path,
    ∃ reduction, rules.reduce? sighting path = some reduction ∧
      (∀ w, w <:+: reduction.path → ¬ HexGroups [28] w ∧ ¬ HexGroups [8, 4, 4, 4, 4] w) ∧
      (∀ rule, containerId = .ok rule → ∀ w, w <:+: reduction.path → rule.matchesIn w = []) ∧
      (∀ c, c.isDigit = true ∨ c = '.' ∨ c = '_' →
        ¬ "secrets/kubernetes.io/serviceaccount/".toList ++ [c] <:+: reduction.path) ∧
      (sighting.filesystem = none ∨ sighting.filesystem = some "sysfs" →
        (∀ c, c.isDigit = true →
          ¬ "/sys/devices/virtual/block/dm-".toList ++ [c] <:+: reduction.path ∧
          ¬ "/sys/devices/virtual/block/loop".toList ++ [c] <:+: reduction.path) ∧
        ∀ x, '/' ∉ x → ∀ suffix ∈ [".slice".toList, ".scope".toList],
          ("kubepods-".toList ++ x ++ suffix <:+: reduction.path → x = ['*']) ∧
          ("cri-containerd-".toList ++ x ++ suffix <:+: reduction.path → x = ['*'])) := by
  obtain ⟨rules, hrules, hreduce⟩ := exists_passes
  refine ⟨rules, hrules, fun sighting path => ?_⟩
  obtain ⟨reduction, hreduction, hpasses⟩ := hreduce sighting path
  have hclean := clean_of_passes hpasses
  refine ⟨reduction, hreduction, fun w hw => ⟨fun h => ?_, fun h => ?_⟩, fun rule hrule w hw => ?_,
    fun c hc hin => ?_, fun hon => ⟨fun c hc => ⟨fun hin => ?_, fun hin => ?_⟩, ?_⟩⟩
  · exact hclean.ids w (Or.inl h) hw
  · exact hclean.ids w (Or.inr h) hw
  · exact matchesIn_containerId hrule fun v hv hin => hclean.ids v hv (hin.trans hw)
  · refine hclean.tokens _ ⟨tokenLead, List.mem_singleton_self _, c, ?_, rfl⟩ hin
    simpa [isTokenChar, or_assoc] using hc
  · exact hclean.devices hon _ ⟨_, List.mem_cons_self, c, hc, rfl⟩ hin
  · exact hclean.devices hon _ ⟨_, List.mem_cons_of_mem _ List.mem_cons_self, c, hc, rfl⟩ hin
  · intro x hx suffix hsuffix
    have hmem : suffix ∈ suffixes := by simpa [suffixes] using hsuffix
    exact ⟨hclean.pods hon x suffix hmem hx, hclean.containers hon x suffix hmem hx⟩

end StablePath.Builtin
