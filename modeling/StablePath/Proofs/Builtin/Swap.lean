import StablePath.Proofs.Builtin.Inside
import StablePath.Proofs.Builtin.Shape

/-!
Ids in the place of each other.

Two texts are compared that differ in one run of hexadecimal digits. A control group has such a run
inside or lies beside it, except that its suffix may end in the first digits of the run and its own
text may begin with the last one. Where the runs agree there, a sweep treats both texts alike.
-/

namespace StablePath.Builtin

open Pattern

/-- So many hexadecimal digits that no text of the rules for control groups reaches over them. -/
structure Digits (id : List Char) : Prop where
  hex : ∀ c ∈ id, isHex c = true
  long : 15 ≤ id.length

variable {lead : String} {u v id id₁ id₂ out out₁ out₂ : List Char} {hit : Hit}

lemma Digits.ne_nil (h : Digits id) : id ≠ [] :=
  List.ne_nil_of_length_pos (Nat.lt_of_lt_of_le (by decide) h.long)

/-! ### Where a control group can lie -/

lemma groupLead_facts : ∀ lead ∈ groupLeads, lead.toList.getLast? = some '-' ∧
    lead.toList.length ≤ 15 ∧ (lead.toList.take 2).all isHex = false ∧
    (∀ suffix ∈ suffixes, ∀ s ∈ suffix.tails, s ≠ [] →
      ¬ s <+: lead.toList ∧ ¬ lead.toList <+: s) ∧ '*' ∉ lead.toList := by
  decide

lemma cgroup_iff : cgroup lead hit ↔
    hit.lead = lead.toList ∧ '/' ∉ hit.span ∧ hit.tail ∈ suffixes := by
  constructor
  · rintro ⟨hlead, -, hspan, htail⟩
    exact ⟨List.mem_singleton.mp hlead, fun hmem => by simpa using hspan _ hmem, htail⟩
  · rintro ⟨hlead, hspan, htail⟩
    refine ⟨List.mem_singleton.mpr hlead, Nat.zero_le _, fun c hc => ?_, htail⟩
    simpa using fun heq : c = '/' => hspan (heq ▸ hc)

lemma taken_ne_nil (h : cgroup lead hit) : hit.taken ≠ [] := by
  obtain ⟨more, htail⟩ := exists_eq_dot_cons h.tail
  simp [Hit.taken, htail]

lemma masks_of_cgroup (h : cgroup lead hit) {x x' : List Char}
    (hx : ∀ before, Masks (Under [lead.toList] 0 (· != '/')) before x x') (before : List Char) :
    Masks (Under [lead.toList] 0 (· != '/')) before (hit.lead ++ hit.span ++ x)
      (hit.lead ++ ['*'] ++ x') := by
  rw [List.append_assoc, List.append_assoc]
  refine Masks.kept hit.lead (.mask hit.span ⟨⟨_, h.lead, ?_⟩, h.enough, h.span⟩ (hx _))
  exact List.suffix_append before hit.lead

lemma length_suffix {suffix : List Char} (h : suffix ∈ suffixes) : suffix.length = 6 := by
  revert suffix
  decide

lemma not_hex_of_suffix {suffix rest : List Char} (h : suffix ∈ suffixes) {c : Char}
    (heq : suffix ++ rest = c :: out) : isHex c = false := by
  obtain ⟨more, rfl⟩ := exists_eq_dot_cons h
  rw [← (List.cons.inj heq).1]
  decide

lemma exists_of_lead (hlead : lead ∈ groupLeads) (hid : Digits id) {t : List Char}
    (h : lead.toList ++ t = u ++ (id ++ v)) : ∃ p, u = lead.toList ++ p ∧ t = p ++ (id ++ v) := by
  obtain ⟨hhyphen, hshort, -⟩ := groupLead_facts lead hlead
  rcases List.append_eq_append_iff.mp h with ⟨p, rfl, ht⟩ | ⟨extra, hextra, ht⟩
  · exact ⟨p, rfl, ht⟩
  · cases hlast : extra.getLast? with
    | none =>
      obtain rfl := List.getLast?_eq_none_iff.mp hlast
      exact ⟨[], by simpa using hextra.symm, by simpa using ht.symm⟩
    | some k =>
      -- the hyphen at the end would be one of the digits
      have hlength : extra.length ≤ id.length := by
        rw [hextra, List.length_append] at hshort
        exact Nat.le_trans (by omega) hid.long
      have hin : extra <+: id := by
        refine List.prefix_of_prefix_length_le ?_ (List.prefix_append id v) hlength
        exact ⟨t, ht.symm⟩
      have hk := hid.hex k (hin.subset (List.mem_of_getLast? hlast))
      rw [hextra, List.getLast?_append, hlast] at hhyphen
      obtain rfl : k = '-' := Option.some.inj hhyphen
      rw [not_isHex_hyphen] at hk
      cases hk

/-- A suffix begins before a run of digits and ends in it at the latest, or it lies behind it. -/
lemma suffix_cases (hid : Digits id) {p y suffix : List Char} (hsuffix : suffix ∈ suffixes)
    (h : y ++ suffix <+: p ++ (id ++ v)) :
    (∃ q, p = y ++ q ∧ suffix <+: q ++ id) ∨ ∃ z, y = p ++ (id ++ z) ∧ z ++ suffix <+: v := by
  obtain ⟨rest, hrest⟩ := h
  rw [List.append_assoc] at hrest
  rcases List.append_eq_append_iff.mp hrest with ⟨q, rfl, hq⟩ | ⟨y', rfl, hy'⟩
  · refine Or.inl ⟨q, rfl, ?_⟩
    refine List.prefix_of_prefix_length_le ⟨rest, hq⟩ ⟨v, List.append_assoc _ _ _⟩ ?_
    rw [length_suffix hsuffix, List.length_append]
    exact Nat.le_trans (by decide) (Nat.le_trans hid.long (Nat.le_add_left _ _))
  · rcases List.append_eq_append_iff.mp hy' with ⟨z, rfl, hz⟩ | ⟨extra, hextra, hrest'⟩
    · exact Or.inr ⟨z, rfl, rest, by rw [hz, List.append_assoc]⟩
    · cases extra with
      | nil => exact Or.inr ⟨[], by rw [hextra]; simp, rest, hrest'⟩
      | cons c extra =>
        have hc := hid.hex c (by simp [hextra])
        rw [not_hex_of_suffix hsuffix hrest'] at hc
        cases hc

/-! ### Runs without a match -/

lemma not_starts_of_hex (hlead : lead ∈ groupLeads) {s : List Char} {c : Char} (hs : s ≠ [])
    (hhex : ∀ k ∈ s ++ [c], isHex k = true) (hhit : cgroup lead hit) :
    hit.text ≠ s ++ c :: v := by
  obtain ⟨-, -, hnot, -⟩ := groupLead_facts lead hlead
  obtain ⟨k, hk, hnot⟩ := List.all_eq_false.mp hnot
  intro htext
  have hhead : lead.toList.take 2 <+: hit.text := by
    rw [← (cgroup_iff.mp hhit).1]
    exact (List.take_prefix 2 _).trans hit.lead_isPrefix
  have hstart : lead.toList.take 2 <+: s ++ [c] := by
    refine List.prefix_of_prefix_length_le hhead ⟨v, by simp [htext]⟩ ?_
    have hpos := List.length_pos_iff.mpr hs
    rw [List.length_take, List.length_append, List.length_singleton]
    omega
  exact hnot (hhex k (hstart.subset hk))

lemma sweeps_of_hex (hlead : lead ∈ groupLeads) {w : List Char} {c : Char}
    (hhex : ∀ k ∈ w ++ [c], isHex k = true) (h : Pass (cgroup lead) star (w ++ c :: v) out) :
    ∃ v', out = w ++ c :: v' ∧ Pass (cgroup lead) star (c :: v) (c :: v') := by
  obtain ⟨out', rfl, hsweep⟩ : ∃ out', out = w ++ out' ∧ Pass (cgroup lead) star (c :: v) out' := by
    refine Sweeps.of_no_start (fun s hs hsuffix hit hhit => ?_) h
    refine not_starts_of_hex hlead hs (fun k hk => hhex k ?_) hhit.1
    exact List.mem_append.mpr ((List.mem_append.mp hk).imp_left fun hk => hsuffix.subset hk)
  rcases hsweep.inv with ⟨hnil, -⟩ | ⟨d, _, v', hd, rfl, -, -⟩ | ⟨hit, o, htext, rfl, hhit, -, -⟩
  · cases hnil
  · obtain ⟨rfl, -⟩ := List.cons.inj hd
    exact ⟨v', rfl, hsweep⟩
  · -- a match that begins at the last digit keeps it
    obtain ⟨hhead, -⟩ := cgroup_iff.mp hhit.1
    obtain ⟨k, more, hmore⟩ := List.exists_cons_of_ne_nil (groupLead_ne_nil hlead)
    rw [Hit.text, Hit.taken, hhead, hmore] at htext
    obtain ⟨rfl, -⟩ := List.cons.inj htext
    rw [hhead, hmore] at hsweep ⊢
    exact ⟨_, rfl, hsweep⟩

/-- A suffix stays where it was, or a match puts one after its star. -/
lemma exists_suffix_of_pass (hlead : lead ∈ groupLeads) {text : List Char}
    (h : Pass (cgroup lead) star text out) (hin : ∃ suffix ∈ suffixes, suffix <:+: text) :
    ∃ suffix ∈ suffixes, suffix <:+: out := by
  unfold Pass at h
  induction h with
  | done => exact hin
  | @skip c text out none later ih =>
    obtain ⟨suffix, hsuffix, hin⟩ := hin
    rcases List.infix_cons_iff.mp hin with ⟨rest, hrest⟩ | hin
    · -- no match begins inside a suffix
      have hsweep := Sweeps.skip none later
      rw [← hrest] at hsweep
      obtain ⟨out', hout, -⟩ := hsweep.of_no_start fun s hs hs' hit hhit htext => by
        obtain ⟨-, -, -, hno, -⟩ := groupLead_facts lead hlead
        obtain ⟨hno, hno'⟩ := hno suffix hsuffix s ((List.mem_tails _ _).mpr hs') hs
        have hstart : lead.toList <+: s ++ rest := by
          rw [← (cgroup_iff.mp hhit.1).1, ← htext]
          exact hit.lead_isPrefix
        rcases List.prefix_or_prefix_of_prefix hstart (List.prefix_append s rest) with h | h
        · exact hno' h
        · exact hno h
      exact ⟨suffix, hsuffix, hout ▸ (List.prefix_append _ _).isInfix⟩
    · obtain ⟨suffix', hsuffix', hin'⟩ := ih ⟨suffix, hsuffix, hin⟩
      exact ⟨suffix', hsuffix', hin'.trans (List.suffix_cons c out).isInfix⟩
  | @hit hit out found _ _ _ =>
    exact ⟨hit.tail, found.1.tail, hit.lead ++ star hit.span, out, by simp⟩

/-! ### Two ids -/

/-- The last digits are the same, or no control group begins with one of them. -/
def AgreeBehind (lead : String) (v id₁ id₂ : List Char) : Prop :=
  ∀ c₁ ∈ id₁.getLast?, ∀ c₂ ∈ id₂.getLast?, c₁ ≠ c₂ →
    NoHit (cgroup lead) (c₁ :: v) ∧ NoHit (cgroup lead) (c₂ :: v)

/-- The same suffixes of control groups end in the first digits. -/
def AgreeBefore (lead : String) (u id₁ id₂ : List Char) : Prop :=
  ∀ y q, lead.toList ++ y ++ q <:+ u → ∀ suffix ∈ suffixes,
    (suffix <+: q ++ id₁ ↔ suffix <+: q ++ id₂)

lemma AgreeBehind.of_append {b : List Char} (h : AgreeBehind lead v (b ++ id₁) (b ++ id₂))
    (hne₁ : id₁ ≠ []) (hne₂ : id₂ ≠ []) : AgreeBehind lead v id₁ id₂ := by
  unfold AgreeBehind at h
  rwa [List.getLast?_append_of_ne_nil _ hne₁, List.getLast?_append_of_ne_nil _ hne₂] at h

lemma AgreeBefore.symm (h : AgreeBefore lead u id₁ id₂) : AgreeBefore lead u id₂ id₁ :=
  fun y q hu suffix hsuffix => (h y q hu suffix hsuffix).symm

lemma AgreeBefore.of_suffix {u' : List Char} (h : AgreeBefore lead u id₁ id₂) (hu : u' <:+ u) :
    AgreeBefore lead u' id₁ id₂ :=
  fun y q hq => h y q (hq.trans hu)

/-- Two runs of digits stay, and so does what follows them, but for the same stars. -/
lemma sweeps_of_runs (hlead : lead ∈ groupLeads) (hagree : AgreeBehind lead v id₁ id₂)
    (hhex₁ : ∀ k ∈ id₁, isHex k = true) (hhex₂ : ∀ k ∈ id₂, isHex k = true)
    (hne₁ : id₁ ≠ []) (hne₂ : id₂ ≠ [])
    (h₁ : Pass (cgroup lead) star (id₁ ++ v) out₁) (h₂ : Pass (cgroup lead) star (id₂ ++ v) out₂) :
    ∃ v', out₁ = id₁ ++ v' ∧ out₂ = id₂ ++ v' ∧ Stars [] v v' ∧
      ((∃ suffix ∈ suffixes, suffix <:+: v) → ∃ suffix ∈ suffixes, suffix <:+: v') := by
  obtain ⟨w₁, c₁, rfl⟩ := (List.eq_nil_or_concat' id₁).resolve_left hne₁
  obtain ⟨w₂, c₂, rfl⟩ := (List.eq_nil_or_concat' id₂).resolve_left hne₂
  rw [List.append_assoc] at h₁ h₂
  obtain ⟨v₁, rfl, hsweep₁⟩ := sweeps_of_hex hlead hhex₁ h₁
  obtain ⟨v₂, rfl, hsweep₂⟩ := sweeps_of_hex hlead hhex₂ h₂
  -- from the last digits on the sweeps do the same
  have hsame : v₁ = v₂ := by
    by_cases hc : c₁ = c₂
    · subst hc
      exact (List.cons.inj (hsweep₁.unique (exact_cgroup lead) hsweep₂)).2
    · obtain ⟨hnone₁, hnone₂⟩ := hagree c₁ (by simp) c₂ (by simp) hc
      obtain ⟨o₁, ho₁, hv₁⟩ := hsweep₁.of_none (exact_cgroup lead) hnone₁
      obtain ⟨o₂, ho₂, hv₂⟩ := hsweep₂.of_none (exact_cgroup lead) hnone₂
      rw [(List.cons.inj ho₁).2, (List.cons.inj ho₂).2]
      exact hv₁.unique (exact_cgroup lead) hv₂
  subst hsame
  have hc : isHex c₁ = true := hhex₁ c₁ (by simp)
  refine ⟨v₁, by simp, by simp, ?_, fun ⟨suffix, hsuffix, hin⟩ => ?_⟩
  · have hmasks : Masks (Under [lead.toList] 0 (· != '/')) [] (c₁ :: v) ([c₁] ++ v₁) :=
      hsweep₁.masks []
    have hstar : '*' ∉ [c₁] := fun hmem => by
      rw [← List.mem_singleton.mp hmem] at hc
      cases hc
    obtain ⟨v', hv', hlater⟩ := hmasks.split_of_not_mem hstar
    rw [(List.cons.inj hv').2]
    exact hlater.stars (fun _ _ => slashless_cgroup) []
  · obtain ⟨suffix', hsuffix', hin'⟩ := exists_suffix_of_pass hlead hsweep₁
      ⟨suffix, hsuffix, hin.trans (List.suffix_cons c₁ v).isInfix⟩
    rcases List.infix_cons_iff.mp hin' with ⟨rest, hrest⟩ | hin'
    · rw [not_hex_of_suffix hsuffix' hrest] at hc
      cases hc
    · exact ⟨suffix', hsuffix', hin'⟩

/-- What a sweep makes of two ids between the same texts: both are covered, or both stay, behind
what is masked of the first text and before the same stars. -/
def SweptAlike (lead : String) (u v id₁ id₂ out₁ out₂ : List Char) : Prop :=
  out₁ = out₂ ∨ ∃ u' v', out₁ = u' ++ (id₁ ++ v') ∧ out₂ = u' ++ (id₂ ++ v') ∧
    (∀ before, Masks (Under [lead.toList] 0 (· != '/')) before u u') ∧ Stars [] v v' ∧
    ((∃ suffix ∈ suffixes, suffix <:+: v) → ∃ suffix ∈ suffixes, suffix <:+: v')

namespace SweptAlike

lemma keep (c : Char) (h : SweptAlike lead u v id₁ id₂ out₁ out₂) :
    SweptAlike lead (c :: u) v id₁ id₂ (c :: out₁) (c :: out₂) := by
  rcases h with rfl | ⟨u', v', rfl, rfl, hmasks, hrest⟩
  · exact Or.inl rfl
  · exact Or.inr ⟨c :: u', v', rfl, rfl, fun before => .keep c (hmasks _), hrest⟩

/-- A match that ends before the ids is written over in both texts. -/
lemma behind_match (hhit : cgroup lead hit) (h : SweptAlike lead u v id₁ id₂ out₁ out₂) :
    SweptAlike lead (hit.lead ++ hit.span ++ (hit.tail ++ u)) v id₁ id₂
      (hit.lead ++ star hit.span ++ hit.tail ++ out₁)
      (hit.lead ++ star hit.span ++ hit.tail ++ out₂) := by
  rcases h with rfl | ⟨u', v', rfl, rfl, hmasks, hrest⟩
  · exact Or.inl rfl
  · refine Or.inr ⟨hit.lead ++ ['*'] ++ (hit.tail ++ u'), v', by simp [star], by simp [star],
      fun before => ?_, hrest⟩
    exact masks_of_cgroup hhit (fun before => .kept hit.tail (hmasks _)) before

/-- So is a match that ends in digits that the ids share. -/
lemma across_match (hlead : lead ∈ groupLeads) {q b : List Char} (hhit : cgroup lead hit)
    (htail : hit.tail = q ++ b) (hid₁ : Digits (b ++ id₁)) (hid₂ : Digits (b ++ id₂))
    (hagree : AgreeBehind lead v (b ++ id₁) (b ++ id₂))
    (h₁ : Pass (cgroup lead) star (id₁ ++ v) out₁) (h₂ : Pass (cgroup lead) star (id₂ ++ v) out₂) :
    SweptAlike lead (hit.lead ++ hit.span ++ q) v (b ++ id₁) (b ++ id₂)
      (hit.lead ++ star hit.span ++ hit.tail ++ out₁)
      (hit.lead ++ star hit.span ++ hit.tail ++ out₂) := by
  have hshort := length_suffix hhit.tail
  rw [htail, List.length_append] at hshort
  have hlong₁ := hid₁.long
  have hlong₂ := hid₂.long
  rw [List.length_append] at hlong₁ hlong₂
  have hne₁ : id₁ ≠ [] := List.ne_nil_of_length_pos (by omega)
  have hne₂ : id₂ ≠ [] := List.ne_nil_of_length_pos (by omega)
  obtain ⟨v', rfl, rfl, hrest⟩ := sweeps_of_runs hlead (hagree.of_append hne₁ hne₂)
    (fun k hk => hid₁.hex k (List.mem_append_right b hk))
    (fun k hk => hid₂.hex k (List.mem_append_right b hk)) hne₁ hne₂ h₁ h₂
  refine Or.inr ⟨hit.lead ++ ['*'] ++ q, v', by simp [star, htail], by simp [star, htail],
    fun before => ?_, hrest⟩
  exact masks_of_cgroup hhit (fun before => .refl before q) before

end SweptAlike

/-- A match in one text and the one in its place in the other text. -/
structure Counterpart (u v id₁ id₂ : List Char) (hit other : Hit) : Prop where
  text_eq : other.text = u ++ (id₂ ++ v)
  lead_eq : other.lead = hit.lead
  tail_eq : other.tail = hit.tail
  length_eq : other.span.length = hit.span.length
  /-- The suffix ends behind the id, or what it leaves of the id begins behind the same text. -/
  rest_eq : other.rest = hit.rest ∨ ∃ q r₁ r₂, u = hit.lead ++ hit.span ++ q ∧
    hit.tail ++ r₁ = q ++ id₁ ∧ hit.tail ++ r₂ = q ++ id₂ ∧ hit.rest = r₁ ++ v ∧ other.rest = r₂ ++ v

section

variable (hlead : lead ∈ groupLeads) (hid₁ : Digits id₁) (hid₂ : Digits id₂)
  (hlength : id₁.length = id₂.length)

include hlead hid₁ hid₂ hlength

/-- A match has a counterpart, if its suffix has one when it ends in the id. -/
lemma exists_counterpart_of (hhit : cgroup lead hit) (htext : hit.text = u ++ (id₁ ++ v))
    (hnear : ∀ q, u = hit.lead ++ hit.span ++ q → hit.tail <+: q ++ id₁ → hit.tail <+: q ++ id₂) :
    ∃ other, cgroup lead other ∧ Counterpart u v id₁ id₂ hit other := by
  obtain ⟨hhead, hspan, htail⟩ := cgroup_iff.mp hhit
  obtain ⟨_, span, tail, rest⟩ := hit
  dsimp only at hhead hspan htail
  subst hhead
  have hsplit : lead.toList ++ (span ++ (tail ++ rest)) = u ++ (id₁ ++ v) := by
    simpa [Hit.text, Hit.taken] using htext
  obtain ⟨p, rfl, hp⟩ := exists_of_lead hlead hid₁ hsplit
  have hstart : span ++ tail <+: p ++ (id₁ ++ v) := ⟨rest, by rw [← hp, List.append_assoc]⟩
  rcases suffix_cases hid₁ htail hstart with ⟨q, rfl, hq⟩ | ⟨z, rfl, more, hmore⟩
  · have hq' := hnear q (by simp) hq
    obtain ⟨r₁, hr₁⟩ := hq
    obtain ⟨r₂, hr₂⟩ := hq'
    have hrest : rest = r₁ ++ v := by
      refine (List.append_right_inj (span ++ tail)).mp ?_
      rw [List.append_assoc, hp, List.append_assoc span tail, ← List.append_assoc tail, hr₁]
      simp
    refine ⟨⟨lead.toList, span, tail, r₂ ++ v⟩, cgroup_iff.mpr ⟨rfl, hspan, htail⟩, ?_, rfl, rfl,
      rfl, Or.inr ⟨q, r₁, r₂, by simp, hr₁, hr₂, hrest, rfl⟩⟩
    have hmore : span ++ (tail ++ (r₂ ++ v)) = span ++ (q ++ (id₂ ++ v)) := by
      rw [← List.append_assoc tail, hr₂, List.append_assoc]
    simp [Hit.text, Hit.taken, hmore]
  · have hrest : rest = more := by
      rw [← hmore] at hp
      simpa using hp
    have hspan' : '/' ∉ p ++ (id₂ ++ z) := by
      simp only [List.mem_append, not_or] at hspan ⊢
      refine ⟨hspan.1, fun hmem => ?_, hspan.2.2⟩
      exact absurd (hid₂.hex _ hmem) (by decide)
    refine ⟨⟨lead.toList, p ++ (id₂ ++ z), tail, more⟩, cgroup_iff.mpr ⟨rfl, hspan', htail⟩, ?_, rfl,
      rfl, by simp [hlength], Or.inl hrest.symm⟩
    simp [Hit.text, Hit.taken, ← hmore]

lemma exists_counterpart (hagree : AgreeBefore lead u id₁ id₂) (hhit : cgroup lead hit)
    (htext : hit.text = u ++ (id₁ ++ v)) :
    ∃ other, cgroup lead other ∧ Counterpart u v id₁ id₂ hit other := by
  obtain ⟨hhead, -, htail⟩ := cgroup_iff.mp hhit
  refine exists_counterpart_of hlead hid₁ hid₂ hlength hhit htext fun q hq => ?_
  rw [hhead] at hq
  exact (hagree hit.span q ⟨[], hq.symm⟩ hit.tail htail).mp

lemma exists_longest_counterpart (hagree : AgreeBefore lead u id₁ id₂)
    (h : Longest (cgroup lead) hit) (htext : hit.text = u ++ (id₁ ++ v)) :
    ∃ other, Longest (cgroup lead) other ∧ Counterpart u v id₁ id₂ hit other := by
  obtain ⟨other, hother, hcounter⟩ :=
    exists_counterpart hlead hid₁ hid₂ hlength hagree h.1 htext
  refine ⟨other, ⟨hother, fun more hmore hmoreText hmoreLead => ?_⟩, hcounter⟩
  -- a longer match in the other text would have a counterpart here
  obtain ⟨back, hback, hcounter'⟩ := exists_counterpart hlead hid₂ hid₁ hlength.symm hagree.symm
    hmore (hmoreText.trans hcounter.text_eq)
  rw [hcounter.length_eq, ← hcounter'.length_eq]
  refine h.2 back hback (hcounter'.text_eq.trans htext.symm) ?_
  rw [hcounter'.lead_eq, hmoreLead, hcounter.lead_eq]

lemma noHit_counterpart (hagree : AgreeBefore lead u id₁ id₂)
    (h : NoHit (cgroup lead) (u ++ (id₁ ++ v))) : NoHit (cgroup lead) (u ++ (id₂ ++ v)) := by
  intro other hother hshape
  obtain ⟨back, hback, hcounter⟩ :=
    exists_counterpart hlead hid₂ hid₁ hlength.symm hagree.symm hshape hother
  exact h back hcounter.text_eq hback

/-- **A sweep over control groups treats two ids alike** that agree on the groups at their ends. -/
theorem sweeps_of_ids (hbefore : AgreeBefore lead u id₁ id₂) (hbehind : AgreeBehind lead v id₁ id₂)
    (h₁ : Pass (cgroup lead) star (u ++ (id₁ ++ v)) out₁)
    (h₂ : Pass (cgroup lead) star (u ++ (id₂ ++ v)) out₂) :
    SweptAlike lead u v id₁ id₂ out₁ out₂ := by
  induction hn : u.length using Nat.strongRecOn generalizing u out₁ out₂ with
  | ind n ih =>
  cases u with
  | nil =>
    obtain ⟨v', rfl, rfl, hrest⟩ := sweeps_of_runs hlead hbehind hid₁.hex hid₂.hex hid₁.ne_nil
      hid₂.ne_nil h₁ h₂
    exact Or.inr ⟨[], v', rfl, rfl, fun before => .nil before, hrest⟩
  | cons c u =>
  rcases h₁.inv with ⟨hnil, -⟩ | ⟨d, t, o₁, ht, rfl, hnone, hlater⟩ |
    ⟨hit, o₁, htext, rfl, hhit, hne, hlater⟩
  · cases hnil
  · -- no match begins here, in neither text
    obtain ⟨rfl, rfl⟩ := List.cons.inj ht
    obtain ⟨o₂, rfl, hlater₂⟩ := h₂.of_none (exact_cgroup lead)
      (noHit_counterpart hlead hid₁ hid₂ hlength hbefore hnone)
    have hshorter : u.length < n := by simp [← hn]
    exact (ih _ hshorter (hbefore.of_suffix (List.suffix_cons c u)) hlater hlater₂ rfl).keep c
  · obtain ⟨other, hother, hcounter⟩ :=
      exists_longest_counterpart hlead hid₁ hid₂ hlength hbefore hhit htext.symm
    rw [← hcounter.text_eq] at h₂
    obtain ⟨o₂, rfl, hlater₂⟩ := h₂.of_hit (exact_cgroup lead) hother (taken_ne_nil hother.1)
    rw [hcounter.lead_eq, hcounter.tail_eq]
    rcases hcounter.rest_eq with hrest | ⟨q, r₁, r₂, hq, hr₁, hr₂, hrest₁, hrest₂⟩
    · -- the match covers the id
      rw [hrest] at hlater₂
      rw [hlater.unique (exact_cgroup lead) hlater₂]
      exact Or.inl rfl
    rw [hrest₁] at hlater
    rw [hrest₂] at hlater₂
    rcases List.append_eq_append_iff.mp hr₁ with ⟨p, rfl, rfl⟩ | ⟨b, hb, rfl⟩
    · -- the suffix ends before the id
      obtain rfl : r₂ = p ++ id₂ := by simpa using hr₂
      have hsuffix : p <:+ c :: u := ⟨hit.lead ++ hit.span ++ hit.tail, by rw [hq]; simp⟩
      have hshorter : p.length < n := by
        rw [← hn, hq]
        simp only [List.length_append, length_suffix hhit.1.tail]
        omega
      rw [List.append_assoc] at hlater hlater₂
      rw [hq]
      exact (ih _ hshorter (hbefore.of_suffix hsuffix) hlater hlater₂ rfl).behind_match hhit.1
    · -- the suffix ends in the id
      obtain rfl : id₂ = b ++ r₂ := by
        rw [hb, List.append_assoc] at hr₂
        exact (List.append_cancel_left hr₂).symm
      rw [hq]
      exact SweptAlike.across_match hlead hhit.1 hb hid₁ hid₂ hbehind hlater hlater₂

lemma eq_of_reach (hhit : Longest (cgroup lead) hit) (htext : hit.text = u ++ (id₁ ++ v))
    (hreach : u.length < hit.lead.length + hit.span.length)
    (h₁ : Pass (cgroup lead) star (u ++ (id₁ ++ v)) out₁)
    (h₂ : Pass (cgroup lead) star (u ++ (id₂ ++ v)) out₂) : out₁ = out₂ := by
  have hno : ∀ q, u ≠ hit.lead ++ hit.span ++ q := fun q hq => by
    rw [hq, List.length_append, List.length_append] at hreach
    omega
  obtain ⟨other, hother, hcounter⟩ := exists_counterpart_of hlead hid₁ hid₂ hlength hhit.1 htext
    fun q hq => absurd hq (hno q)
  have hlongest : Longest (cgroup lead) other := by
    refine ⟨hother, fun more hmore hmoreText hmoreLead => ?_⟩
    by_contra hlt
    rw [hcounter.length_eq] at hlt
    obtain ⟨back, hback, hcounter'⟩ := exists_counterpart_of hlead hid₂ hid₁ hlength.symm hmore
      (hmoreText.trans hcounter.text_eq) fun q hq => by
        rw [hmoreLead, hcounter.lead_eq] at hq
        rw [hq, List.length_append, List.length_append] at hreach
        omega
    refine hlt (hcounter'.length_eq ▸ hhit.2 back hback (hcounter'.text_eq.trans htext.symm) ?_)
    rw [hcounter'.lead_eq, hmoreLead, hcounter.lead_eq]
  rw [← htext] at h₁
  rw [← hcounter.text_eq] at h₂
  obtain ⟨o₁, rfl, hlater₁⟩ := h₁.of_hit (exact_cgroup lead) hhit (taken_ne_nil hhit.1)
  obtain ⟨o₂, rfl, hlater₂⟩ := h₂.of_hit (exact_cgroup lead) hlongest (taken_ne_nil hother)
  have hrest := hcounter.rest_eq.resolve_right fun ⟨q, _, _, hq, _⟩ => hno q hq
  rw [hrest] at hlater₂
  rw [hcounter.lead_eq, hcounter.tail_eq, hlater₁.unique (exact_cgroup lead) hlater₂]
  rfl

/-- **A control group around an id covers it**, whatever the id is. -/
theorem sweeps_of_covered (hu : '/' ∉ u) (hv : '/' ∉ v) (hin : lead.toList <:+: u)
    (hsuffix : ∃ suffix ∈ suffixes, suffix <:+: v)
    (h₁ : Pass (cgroup lead) star (u ++ (id₁ ++ v)) out₁)
    (h₂ : Pass (cgroup lead) star (u ++ (id₂ ++ v)) out₂) : out₁ = out₂ := by
  induction u generalizing out₁ out₂ with
  | nil =>
    have hlast := (groupLead_facts lead hlead).1
    rw [List.infix_nil.mp hin] at hlast
    cases hlast
  | cons c u ih =>
  by_cases hstart : lead.toList <+: c :: u
  · obtain ⟨p, hp⟩ := hstart
    obtain ⟨suffix, hmem, z, rest, rfl⟩ := hsuffix
    have hshape : cgroup lead ⟨lead.toList, p ++ (id₁ ++ z), suffix, rest⟩ := by
      refine cgroup_iff.mpr ⟨rfl, ?_, hmem⟩
      rw [← hp] at hu
      simp only [List.mem_append, not_or] at hu hv ⊢
      exact ⟨hu.2, fun hmem => absurd (hid₁.hex _ hmem) (by decide), hv.1.1⟩
    have htext : (⟨lead.toList, p ++ (id₁ ++ z), suffix, rest⟩ : Hit).text =
        c :: u ++ (id₁ ++ (z ++ suffix ++ rest)) := by
      rw [← hp]
      simp [Hit.text, Hit.taken]
    rcases h₁.inv with ⟨hnil, -⟩ | ⟨_, _, _, -, -, hnone, -⟩ | ⟨hit, _, hhitText, -, hhit, -, -⟩
    · cases hnil
    · exact absurd hshape (hnone _ htext)
    · have hhead := (cgroup_iff.mp hhit.1).1
      have hle := hhit.2 _ hshape (htext.trans hhitText) hhead.symm
      refine eq_of_reach hlead hid₁ hid₂ hlength hhit hhitText.symm ?_ h₁ h₂
      have hlong := hid₁.long
      rw [hhead, ← hp]
      simp only [List.length_append] at hle ⊢
      omega
  · -- no match begins here, since its text would end before the id
    have hnone : ∀ {id : List Char}, Digits id → NoHit (cgroup lead) (c :: u ++ (id ++ v)) := by
      intro id hid hit htext hhit
      obtain ⟨p, hp, -⟩ := exists_of_lead (v := v) hlead hid
        (t := hit.span ++ (hit.tail ++ hit.rest)) (u := c :: u) (by
          rw [← (cgroup_iff.mp hhit).1, ← htext]
          simp [Hit.text, Hit.taken])
      exact hstart ⟨p, hp.symm⟩
    obtain ⟨o₁, rfl, hlater₁⟩ := h₁.of_none (exact_cgroup lead) (hnone hid₁)
    obtain ⟨o₂, rfl, hlater₂⟩ := h₂.of_none (exact_cgroup lead) (hnone hid₂)
    have hin' : lead.toList <:+: u := (List.infix_cons_iff.mp hin).resolve_left hstart
    rw [ih (fun hmem => hu (List.mem_cons_of_mem c hmem)) hin' hlater₁ hlater₂]

end

end StablePath.Builtin
