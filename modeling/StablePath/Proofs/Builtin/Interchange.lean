import StablePath.Proofs.Builtin.OneComponent
import StablePath.Proofs.Builtin.SwapInside

/-!
Ids in the place of each other, in a whole path.

An id lies in one component, and what the first two sweeps make of this component depends on it only
where it stands alone between slashes behind the name of processes or threads.
-/

namespace StablePath.Builtin

open Pattern Text

variable {name P S u v id : List Char} {A B : List (List Char)}

/-! ### Numbers at a place -/

/-- What stands between two texts is a component of its own behind a name, and not the last one. -/
def Between (name P S : List Char) : Prop := '/' :: (name ++ ['/']) <:+ P ∧ ['/'] <+: S

/-- A number stands before a name, behind the same name. -/
def NumberBefore (name P : List Char) : Prop :=
  ∃ d, isNumber d = true ∧ '/' :: (name ++ '/' :: (d ++ '/' :: (name ++ ['/']))) <:+ P

/-- A name follows with a number of its own. -/
def NumberBehind (name S : List Char) : Prop :=
  ∃ d, isNumber d = true ∧ '/' :: (name ++ '/' :: (d ++ ['/'])) <+: S

lemma slashless_of_mem_names (hname : name ∈ names) : '/' ∉ name := by
  revert name
  decide

lemma getElem?_id_ne (hlong : 28 ≤ id.length) (hname : name ∈ names) :
    (A ++ (u ++ (id ++ v)) :: B)[A.length]? ≠ some name := by
  have hlength : ∀ name ∈ names, name.length = 4 := by decide
  intro heq
  obtain rfl : u ++ (id ++ v) = name := by simpa using heq
  have hfour := hlength _ hname
  simp only [List.length_append] at hfour
  omega

section

variable (hP : components P = A ++ [u]) (hS : components S = v :: B)

include hP in
lemma isSuffix_of_components : u <:+ P := by
  cases A with
  | nil => rw [(eq_of_components_eq_singleton hP).1]
  | cons a A =>
    obtain ⟨x, y, rfl, -, hy⟩ :=
      exists_of_components_append (List.cons_ne_nil a A) (List.cons_ne_nil u []) hP
    rw [(eq_of_components_eq_singleton hy).1]
    exact (List.suffix_cons '/' u).trans (List.suffix_append x _)

include hS in
lemma isPrefix_of_components : v <+: S := by
  cases B with
  | nil => rw [(eq_of_components_eq_singleton hS).1]
  | cons b B =>
    obtain ⟨_, rfl, -, -⟩ := exists_of_components_eq hS
    exact List.prefix_append v _

include hP in
lemma last_of_components {q : Char → Bool} (h : ∀ c ∈ P.getLast?, q c = false) :
    ∀ c ∈ u.getLast?, q c = false := by
  obtain ⟨x, hx⟩ := isSuffix_of_components hP
  intro c hc
  refine h c ?_
  rw [← hx, List.getLast?_append, hc]
  rfl

include hS in
lemma head_of_components {q : Char → Bool} (h : ∀ c ∈ S.head?, q c = false) :
    ∀ c ∈ v.head?, q c = false := by
  obtain ⟨x, hx⟩ := isPrefix_of_components hS
  intro c hc
  refine h c ?_
  rw [← hx, List.head?_append, hc]
  rfl

include hP hS in
lemma between_iff (hname : name ∈ names) : Between name P S ↔
    (∃ A', A' ≠ [] ∧ A = A' ++ [name]) ∧ u = [] ∧ v = [] ∧ B ≠ [] := by
  have hslash := slashless_of_mem_names hname
  have hend : components (name ++ ['/']) = [name] ++ [[]] := components_append hslash []
  constructor
  · rintro ⟨⟨x, rfl⟩, y, rfl⟩
    rw [components_append_slash, hend, ← List.append_assoc] at hP
    obtain ⟨hA, hu⟩ := List.append_inj' hP rfl
    obtain ⟨hv, hB⟩ := List.cons.inj ((components_slash y).symm.trans hS)
    exact ⟨⟨_, components_ne_nil x, hA.symm⟩, (List.cons.inj hu).1.symm, hv.symm,
      hB ▸ components_ne_nil y⟩
  · rintro ⟨⟨A', hA', rfl⟩, rfl, rfl, hB⟩
    rw [List.append_assoc] at hP
    obtain ⟨x, y, rfl, -, hy⟩ := exists_of_components_append hA' (by simp) hP
    obtain rfl := components_injective (hy.trans hend.symm)
    obtain ⟨b, B, rfl⟩ := List.exists_cons_of_ne_nil hB
    obtain ⟨z, rfl, -, -⟩ := exists_of_components_eq hS
    exact ⟨List.suffix_append x _, List.prefix_append _ z⟩

end

lemma Between.unique {other : List Char} (hname : name ∈ names) (hother : other ∈ names)
    (h : Between name P S) (h' : Between other P S) : name = other := by
  obtain ⟨A, u, hP⟩ :=
    (List.eq_nil_or_concat' (components P)).resolve_left (components_ne_nil P)
  obtain ⟨v, B, hS⟩ := List.exists_cons_of_ne_nil (components_ne_nil S)
  obtain ⟨⟨_, -, hA⟩, -⟩ := (between_iff hP hS hname).mp h
  obtain ⟨⟨_, -, hA'⟩, -⟩ := (between_iff hP hS hother).mp h'
  obtain ⟨-, hlast⟩ := List.append_inj' (hA.symm.trans hA') rfl
  exact (List.cons.inj hlast).1

/-- A component with an id in it is a number exactly if the id is one and stands alone. -/
lemma isNumber_component (hulast : ∀ c ∈ u.getLast?, isHexOrHyphen c = false)
    (hvhead : ∀ c ∈ v.head?, isHexOrHyphen c = false) :
    isNumber (u ++ (id ++ v)) = true ↔ u = [] ∧ v = [] ∧ isNumber id = true := by
  constructor
  · intro h
    have hhex : ∀ c ∈ u ++ (id ++ v), isHexOrHyphen c = true := fun c hc => by
      simp [isHexOrHyphen, (isNumber_iff.mp h).2 c hc]
    have hu : u = [] := by
      refine List.getLast?_eq_none_iff.mp (Option.eq_none_iff_forall_ne_some.mpr fun c hc => ?_)
      have hc' := hhex c (List.mem_append_left _ (List.mem_of_getLast? hc))
      rw [hulast c hc] at hc'
      cases hc'
    have hv : v = [] := by
      refine List.head?_eq_none_iff.mp (Option.eq_none_iff_forall_ne_some.mpr fun c hc => ?_)
      have hc' := hhex c (by simp [List.mem_of_head? hc])
      rw [hvhead c hc] at hc'
      cases hc'
    subst hu hv
    exact ⟨rfl, rfl, by simpa using h⟩
  · rintro ⟨rfl, rfl, h⟩
    simpa using h

section

variable (hP : components P = A ++ [u]) (hS : components S = v :: B) (hname : name ∈ names)

include hP hS

lemma components_id (hhex : ∀ c ∈ id, isHex c = true) :
    components (P ++ (id ++ S)) = A ++ (u ++ (id ++ v)) :: B := by
  have hid : components id = [] ++ [id] :=
    components_of_not_mem fun hmem => absurd (hhex '/' hmem) (by decide)
  exact components_join hP (components_join hid hS)

include hname

lemma numbered_id_iff (hulast : ∀ c ∈ u.getLast?, isHexOrHyphen c = false)
    (hvhead : ∀ c ∈ v.head?, isHexOrHyphen c = false) :
    numbered name (A ++ (u ++ (id ++ v)) :: B) A.length = true ↔
      Between name P S ∧ isNumber id = true := by
  have hat : (A ++ (u ++ (id ++ v)) :: B)[A.length]? = some (u ++ (id ++ v)) := by simp
  rw [numbered_iff, between_iff hP hS hname, hat]
  constructor
  · rintro ⟨hi, hlast, hprev, c, hc, hnumber⟩
    obtain rfl := Option.some.inj hc
    obtain ⟨rfl, rfl, hid⟩ := (isNumber_component hulast hvhead).mp hnumber
    have hB : B ≠ [] := fun hB => by simp [hB] at hlast
    obtain ⟨A', b, rfl⟩ := (List.eq_nil_or_concat' A).resolve_left fun hA => by simp [hA] at hi
    have hA' : A' ≠ [] := fun hA' => by simp [hA'] at hi
    have hb : b = name := by simpa using hprev
    exact ⟨⟨⟨A', hA', hb ▸ rfl⟩, rfl, rfl, hB⟩, hid⟩
  · rintro ⟨⟨⟨A', hA', rfl⟩, rfl, rfl, hB⟩, hid⟩
    have hpos := List.length_pos_iff.mpr hA'
    have hpos' := List.length_pos_iff.mpr hB
    refine ⟨?_, ?_, by simp, _, rfl, by simpa using hid⟩
    · rw [List.length_append, List.length_singleton]
      omega
    · simp only [List.length_append, List.length_cons, List.length_nil]
      omega

/-- The number that a sweep comes to behind an id follows it with the name. -/
lemma numberBehind_of_numbered (hbetween : Between name P S) {w : List Char}
    (h : numbered name (A ++ w :: B) (A.length + 2) = true) : NumberBehind name S := by
  have hslash := slashless_of_mem_names hname
  obtain ⟨-, -, rfl, -⟩ := (between_iff hP hS hname).mp hbetween
  obtain ⟨-, hlast, hprev, d, hd, hnumber⟩ := numbered_iff.mp h
  match B, hlast, hprev, hd with
  | [], hlast, _, _ | [_], hlast, _, _ | [_, _], hlast, _, _ =>
    simp only [List.length_append, List.length_cons, List.length_nil] at hlast
    omega
  | b :: d' :: e :: rest, _, hprev, hd =>
    obtain rfl : b = name := by simpa using hprev
    obtain rfl : d' = d := by simpa using hd
    have hfront : components ('/' :: (b ++ '/' :: d')) = [[], b, d'] := by
      rw [components_slash, components_append hslash,
        components_of_not_mem (isNumber_slashless hnumber)]
    have hsplit : components S = [[], b, d'] ++ e :: rest := hS
    obtain ⟨x, y, rfl, hx, -⟩ :=
      exists_of_components_append (by simp) (List.cons_ne_nil e rest) hsplit
    obtain rfl := components_injective (hx.trans hfront.symm)
    exact ⟨d', hnumber, y, by simp⟩

lemma taken_id (hbetween : Between name P S) (hid : isNumber id = true)
    (hbefore : ¬ NumberBefore name P) : taken name (A ++ (u ++ (id ++ v)) :: B) A.length = true := by
  have hslash := slashless_of_mem_names hname
  obtain ⟨⟨A', hA', rfl⟩, rfl, rfl, hB⟩ := (between_iff hP hS hname).mp hbetween
  have hnumbered := (numbered_id_iff hP hS hname (by simp) (by simp)).mpr ⟨hbetween, hid⟩
  obtain ⟨A', d', rfl⟩ := (List.eq_nil_or_concat' A').resolve_left hA'
  have hlength : (A' ++ [d'] ++ [name]).length = A'.length + 2 := by simp
  rw [hlength] at hnumbered ⊢
  rw [taken, alternate, hnumbered, Bool.true_and, Bool.not_eq_true']
  refine Bool.eq_false_iff.mpr fun htaken => hbefore ?_
  obtain ⟨hi, -, hprev, d, hd, hnumber⟩ := numbered_iff.mp (of_alternate htaken)
  obtain rfl : d' = d := by simpa using hd
  obtain ⟨A', b, rfl⟩ := (List.eq_nil_or_concat' A').resolve_left fun hA => by simp [hA] at hi
  obtain rfl : b = name := by simpa using hprev
  have hend : components (b ++ '/' :: (d' ++ '/' :: (b ++ ['/']))) = [b, d', b, []] := by
    rw [components_append hslash, components_append (isNumber_slashless hnumber),
      components_append hslash]
    rfl
  have hsplit : components P = A' ++ [b, d', b, []] := by simpa using hP
  obtain ⟨x, y, rfl, -, hy⟩ :=
    exists_of_components_append (fun hA => by simp [hA] at hi) (by simp) hsplit
  obtain rfl := components_injective (hy.trans hend.symm)
  exact ⟨d', hnumber, List.suffix_append x _⟩

end

/-- Ids do not change which numbers the sweep comes to behind them, if right before another number
both are numbers or neither is. -/
lemma settled_id {id₁ id₂ : List Char} (hP : components P = A ++ [u]) (hS : components S = v :: B)
    (hulast : ∀ c ∈ u.getLast?, isHexOrHyphen c = false)
    (hvhead : ∀ c ∈ v.head?, isHexOrHyphen c = false) (hname : name ∈ names)
    (hbehind : Between name P S → NumberBehind name S → (isNumber id₁ = true ↔ isNumber id₂ = true)) :
    Settled name A.length (A ++ (u ++ (id₁ ++ v)) :: B) (A ++ (u ++ (id₂ ++ v)) :: B) := by
  by_cases hnext : numbered name (A ++ (u ++ (id₁ ++ v)) :: B) (A.length + 2) = true
  · refine Or.inl (Bool.eq_iff_iff.mpr ?_)
    rw [numbered_id_iff hP hS hname hulast hvhead, numbered_id_iff hP hS hname hulast hvhead]
    exact and_congr_right fun hbetween =>
      hbehind hbetween (numberBehind_of_numbered hP hS hname hbetween hnext)
  · exact Or.inr (Bool.eq_false_iff.mpr hnext)

/-! ### Numbers that are written over -/

/-- The number of the process itself. -/
def IsPid (pid : UInt32) (id : List Char) : Prop := isNumber id = true ∧ decimal id = pid.toNat

/-- A number that becomes a mark where the sweep after a name comes to it. -/
def Overwritten (name id : List Char) : Prop :=
  isNumber id = true ∧ (name = "proc".toList → decimal id < 2 ^ 32)

section

variable {pid : UInt32}

lemma marked_self (h : IsPid pid id) : marked pid "proc".toList id = ['s', 'e', 'l', 'f'] := by
  rw [marked, if_pos h.1, if_pos rfl, pidOrStar_of_isNumber pid h.1, Edit.pidText, if_pos h.2,
    if_pos (h.2 ▸ pid.toNat_lt)]

lemma marked_star (h : Overwritten name id) (hpid : name = "proc".toList → ¬ IsPid pid id) :
    marked pid name id = ['*'] := by
  rw [marked, if_pos h.1]
  split_ifs with hproc
  · rw [pidOrStar_of_isNumber pid h.1, if_pos (h.2 hproc), Edit.pidText,
      if_neg fun heq => hpid hproc ⟨h.1, heq⟩]
  · rfl

lemma marked_of_not (h : ¬ Overwritten name id) : marked pid name id = id := by
  unfold marked
  split_ifs with hnumber hproc
  · rw [pidOrStar_of_isNumber pid hnumber, if_neg fun hlt => h ⟨hnumber, fun _ => hlt⟩]
  · exact absurd ⟨hnumber, fun heq => absurd heq hproc⟩ h
  · rfl

end

section

variable {filesystem : Option String} {c e : List Char}

lemma eq_of_hyphenless {lead : String} (hlead : lead ∈ groupLeads) (hc : '-' ∉ c)
    (h : SysfsPass filesystem (cgroup lead) c e) : e = c := by
  by_cases hon : OnSysfs filesystem
  · refine (h.1 hon).eq_of_no_lead fun t ht hin => hc (hin.subset ?_)
    rw [List.mem_singleton.mp ht]
    exact List.mem_of_getLast? (groupLead_facts lead hlead).1
  · exact h.2 hon

lemma sweeps_of_hyphenless (hc : '-' ∉ c) (h : Inside filesystem c e) :
    Sweeps IsId NoId star c e := by
  obtain ⟨pod, containerd, id⟩ := h
  obtain rfl := eq_of_hyphenless (by decide) hc pod
  obtain rfl := eq_of_hyphenless (by decide) hc containerd
  exact id

lemma inside_star (h : Inside filesystem ['*'] e) : e = ['*'] := by
  refine (sweeps_of_hyphenless (by decide) h).unique exact_id (.refl fun rest hrest => ?_)
  replace hrest := (List.mem_tails _ _).mpr hrest
  unfold NoId
  revert rest
  decide

lemma inside_id (hhex : ∀ c ∈ id, isHex c = true) (hlong : 28 ≤ id.length) (hshort : id.length ≤ 64)
    (h : Inside filesystem id e) : e = ['*'] := by
  have hhyphen : '-' ∉ id := fun hmem => by
    have hdigit := hhex '-' hmem
    rw [not_isHex_hyphen] at hdigit
    cases hdigit
  obtain ⟨out, rfl, hlater⟩ := sweeps_of_long hhex hlong (sweeps_of_hyphenless hhyphen h)
  rw [List.drop_of_length_le hshort] at hlater
  rw [hlater.eq_nil]

lemma inside_marked {pid : UInt32} (hhex : ∀ c ∈ id, isHex c = true) (hlong : 28 ≤ id.length)
    (hpid : name = "proc".toList → ¬ IsPid pid id) (hor : Overwritten name id ∨ id.length ≤ 64)
    (h : Inside filesystem (marked pid name id) e) : e = ['*'] := by
  by_cases hover : Overwritten name id
  · rw [marked_star hover hpid] at h
    exact inside_star h
  · rw [marked_of_not hover] at h
    exact inside_id hhex hlong (hor.resolve_left hover) h

end

/-! ### Ids in a path -/

variable {pid : UInt32} {id₁ id₂ : List Char}

/-- Two ids of one length in one place, with other characters or nothing around them. -/
structure Placed (P S id₁ id₂ : List Char) : Prop where
  last : ∀ c ∈ P.getLast?, isHexOrHyphen c = false
  head : ∀ c ∈ S.head?, isHexOrHyphen c = false
  hex₁ : ∀ c ∈ id₁, isHex c = true
  hex₂ : ∀ c ∈ id₂, isHex c = true
  length_eq : id₁.length = id₂.length
  long : 28 ≤ id₁.length

instance (P S id₁ id₂ : List Char) : Decidable (Placed P S id₁ id₂) :=
  decidable_of_iff (P.getLast?.all (!isHexOrHyphen ·) ∧ S.head?.all (!isHexOrHyphen ·) ∧
      id₁.all isHex ∧ id₂.all isHex ∧ id₁.length = id₂.length ∧ 28 ≤ id₁.length) <| by
    constructor
    · rintro ⟨hlast, hhead, hhex₁, hhex₂, hlength, hlong⟩
      exact ⟨by simpa [Option.all_eq_true] using hlast, by simpa [Option.all_eq_true] using hhead,
        List.all_eq_true.mp hhex₁, List.all_eq_true.mp hhex₂, hlength, hlong⟩
    · rintro ⟨hlast, hhead, hhex₁, hhex₂, hlength, hlong⟩
      exact ⟨by simpa [Option.all_eq_true] using hlast, by simpa [Option.all_eq_true] using hhead,
        List.all_eq_true.mpr hhex₁, List.all_eq_true.mpr hhex₂, hlength, hlong⟩

/-- What ids have to share for the first two sweeps to do the same around them and to them. -/
structure SameNumber (pid : UInt32) (P S id₁ id₂ : List Char) : Prop where
  /-- Behind the name of processes both are the process itself, or neither is. -/
  self : Between "proc".toList P S → (IsPid pid id₁ ↔ IsPid pid id₂)
  /-- Ids that a single star does not cover are both written over as numbers, or neither is. -/
  written : 64 < id₁.length → ∀ name ∈ names, Between name P S →
    (Overwritten name id₁ ↔ Overwritten name id₂)
  /-- Right before another number behind the same name both are numbers, or neither is. -/
  behind : ∀ name ∈ names, Between name P S → NumberBehind name S →
    (isNumber id₁ = true ↔ isNumber id₂ = true)

/-- Both ids are written over behind a name, and no number before it keeps the sweep from them. -/
def BothOverwritten (P S id₁ id₂ : List Char) : Prop :=
  ∃ name ∈ names, Between name P S ∧ ¬ NumberBefore name P ∧ Overwritten name id₁ ∧
    Overwritten name id₂

lemma not_bothOverwritten (hP : components P = A ++ [u]) (hS : components S = v :: B)
    (h : ∀ name ∈ names, taken name (A ++ (u ++ (id₁ ++ v)) :: B) A.length = false) :
    ¬ BothOverwritten P S id₁ id₂ := by
  rintro ⟨name, hname, hbetween, hbefore, hover, -⟩
  have htaken := taken_id hP hS hname hbetween hover.1 hbefore
  rw [h name hname] at htaken
  cases htaken

section

variable (hplaced : Placed P S id₁ id₂) (hsame : SameNumber pid P S id₁ id₂)

include hplaced hsame

lemma eq_of_marked (hname : name ∈ names) (hbetween : Between name P S) {filesystem : Option String}
    {e₁ e₂ : List Char}
    (hplain : (∀ e₁ e₂, Inside filesystem id₁ e₁ → Inside filesystem id₂ e₂ → e₁ = e₂) ∨
      Overwritten name id₁ ∧ Overwritten name id₂)
    (h₁ : Inside filesystem (marked pid name id₁) e₁)
    (h₂ : Inside filesystem (marked pid name id₂) e₂) : e₁ = e₂ := by
  -- if one is the process itself, so is the other
  by_cases hpid : name = "proc".toList ∧ IsPid pid id₁
  · obtain ⟨rfl, hpid₁⟩ := hpid
    rw [marked_self hpid₁] at h₁
    rw [marked_self ((hsame.self hbetween).mp hpid₁)] at h₂
    exact h₁.unique h₂
  have hpid₁ : name = "proc".toList → ¬ IsPid pid id₁ := fun heq hself => hpid ⟨heq, hself⟩
  have hpid₂ : name = "proc".toList → ¬ IsPid pid id₂ := fun heq hself => by
    subst heq
    exact hpid₁ rfl ((hsame.self hbetween).mpr hself)
  by_cases hor : Overwritten name id₁ ∨ id₁.length ≤ 64
  · have hor' : Overwritten name id₂ ∨ id₂.length ≤ 64 := by
      by_cases hle : id₁.length ≤ 64
      · exact Or.inr (hplaced.length_eq ▸ hle)
      · exact Or.inl ((hsame.written (by omega) name hname hbetween).mp (hor.resolve_right hle))
    rw [inside_marked hplaced.hex₁ hplaced.long hpid₁ hor h₁,
      inside_marked hplaced.hex₂ (hplaced.length_eq ▸ hplaced.long) hpid₂ hor' h₂]
  · obtain ⟨hno₁, hgt⟩ := not_or.mp hor
    have hno₂ : ¬ Overwritten name id₂ := fun hover =>
      hno₁ ((hsame.written (by omega) name hname hbetween).mpr hover)
    rw [marked_of_not hno₁] at h₁
    rw [marked_of_not hno₂] at h₂
    exact hplain.resolve_right (fun hboth => hno₁ hboth.1) _ _ h₁ h₂

section

variable (hP : components P = A ++ [u]) (hS : components S = v :: B)

include hP hS

lemma offAt_written : OffAt A.length (written pid (A ++ (u ++ (id₁ ++ v)) :: B))
    (written pid (A ++ (u ++ (id₂ ++ v)) :: B)) := by
  have hulast := last_of_components hP hplaced.last
  have hvhead := head_of_components hS hplaced.head
  have hoff := offAt_append_cons A B (u ++ (id₁ ++ v)) (u ++ (id₂ ++ v))
  exact hoff.written (fun name => getElem?_id_ne hplaced.long)
    (fun name => getElem?_id_ne (hplaced.length_eq ▸ hplaced.long))
    (fun name hname => settled_id hP hS hulast hvhead hname (hsame.behind name hname)) pid

/-- A sweep over numbers that comes to one of the ids is over what stands alone behind a name, and
it does to both what it does to numbers. -/
lemma marked_of_taken (hname : name ∈ names)
    (htaken : taken name (A ++ (u ++ (id₁ ++ v)) :: B) A.length = true ∨
      taken name (A ++ (u ++ (id₂ ++ v)) :: B) A.length = true) :
    Between name P S ∧ u = [] ∧ v = [] ∧
      (written pid (A ++ (u ++ (id₁ ++ v)) :: B))[A.length]? = some (marked pid name id₁) ∧
      (written pid (A ++ (u ++ (id₂ ++ v)) :: B))[A.length]? = some (marked pid name id₂) := by
  have hulast := last_of_components hP hplaced.last
  have hvhead := head_of_components hS hplaced.head
  have hbetween : Between name P S := by
    rcases htaken with htaken | htaken
    all_goals exact ((numbered_id_iff hP hS hname hulast hvhead).mp (numbered_of_taken htaken)).1
  have hoff := offAt_append_cons A B (u ++ (id₁ ++ v)) (u ++ (id₂ ++ v))
  obtain ⟨hleft, hright⟩ := hoff.written_of_either hname (getElem?_id_ne hplaced.long hname)
    (getElem?_id_ne (hplaced.length_eq ▸ hplaced.long) hname)
    (settled_id hP hS hulast hvhead hname (hsame.behind name hname)) htaken pid
  obtain ⟨-, rfl, rfl, -⟩ := (between_iff hP hS hname).mp hbetween
  exact ⟨hbetween, rfl, rfl, by simpa using hleft, by simpa using hright⟩

/-- What the first two sweeps make of the two paths, the later ones make into one outcome. -/
lemma forall₂_inside {filesystem : Option String}
    (hids : OnSysfs filesystem ∧ Enclosed u v ∨ Same filesystem u v id₁ id₂ ∨
      BothOverwritten P S id₁ id₂) :
    List.Forall₂ (fun c c' => ∀ e e', Inside filesystem c e → Inside filesystem c' e' → e = e')
      (written pid (A ++ (u ++ (id₁ ++ v)) :: B)) (written pid (A ++ (u ++ (id₂ ++ v)) :: B)) := by
  have hlong := hplaced.long
  have hu := slashless_of_mem_components (hP ▸ List.mem_append_right A List.mem_cons_self)
  have hv := slashless_of_mem_components (hS ▸ List.mem_cons_self)
  have hplain := (or_assoc.mpr hids).imp_left fun h e₁ e₂
      (h₁ : Inside filesystem (u ++ (id₁ ++ v)) e₁) (h₂ : Inside filesystem (u ++ (id₂ ++ v)) e₂) =>
    eq_of_inside_ids ⟨hplaced.hex₁, by omega⟩ ⟨hplaced.hex₂, hplaced.length_eq ▸ by omega⟩
      hplaced.length_eq hu hv (last_of_components hP hplaced.last)
      (head_of_components hS hplaced.head) h h₁ h₂
  refine (offAt_written hplaced hsame hP hS).forall₂ (fun c e e' => Inside.unique)
    fun c d hc hd => ?_
  by_cases htaken : ∃ name ∈ names, taken name (A ++ (u ++ (id₁ ++ v)) :: B) A.length = true ∨
      taken name (A ++ (u ++ (id₂ ++ v)) :: B) A.length = true
  · obtain ⟨name, hname, htaken⟩ := htaken
    obtain ⟨hbetween, rfl, rfl, hleft, hright⟩ :=
      marked_of_taken hplaced hsame hP hS hname htaken
    obtain rfl := Option.some.inj (hc.symm.trans hleft)
    obtain rfl := Option.some.inj (hd.symm.trans hright)
    intro e₁ e₂ h₁ h₂
    refine eq_of_marked hplaced hsame hname hbetween ?_ h₁ h₂
    refine hplain.imp (by simp) fun ⟨other, hother, hbetween', _, hover⟩ => ?_
    rwa [hbetween.unique hname hother hbetween']
  · -- no sweep over numbers comes to the ids, so they are not both written over
    have hnone₁ : ∀ name ∈ names, taken name (A ++ (u ++ (id₁ ++ v)) :: B) A.length = false :=
      fun name hname => Bool.eq_false_iff.mpr fun h => htaken ⟨name, hname, Or.inl h⟩
    have hnone₂ : ∀ name ∈ names, taken name (A ++ (u ++ (id₂ ++ v)) :: B) A.length = false :=
      fun name hname => Bool.eq_false_iff.mpr fun h => htaken ⟨name, hname, Or.inr h⟩
    rw [getElem?_written_of_not_taken hnone₁] at hc
    rw [getElem?_written_of_not_taken hnone₂] at hd
    obtain rfl : u ++ (id₁ ++ v) = c := by simpa using hc
    obtain rfl : u ++ (id₂ ++ v) = d := by simpa using hd
    exact hplain.resolve_right (not_bothOverwritten hP hS hnone₁)

end

end

/-- **Paths that differ in an id have one outcome**, except for what an id tells by itself: that it
is the process, or a number of a process or thread at all; what is left of it behind the last star;
and that it has the end of a control group in it, or the beginning of one. In a control group it
tells nothing. -/
theorem reduce?_interchanges_ids (sighting : Sighting) {P S u v id₁ id₂ : List Char}
    (hplaced : Placed P S id₁ id₂) (hu : (components P).getLast? = some u)
    (hv : (components S).head? = some v) (hsame : SameNumber sighting.pid P S id₁ id₂)
    (hids : OnSysfs sighting.filesystem ∧ Enclosed u v ∨ Same sighting.filesystem u v id₁ id₂ ∨
      BothOverwritten P S id₁ id₂) :
    ∃ rules a b, ruleset = .ok rules ∧ rules.reduce? sighting (P ++ id₁ ++ S) = some a ∧
      rules.reduce? sighting (P ++ id₂ ++ S) = some b ∧ a.path = b.path := by
  obtain ⟨rules, hrules, hreduce⟩ := exists_passes
  obtain ⟨a, ha, hpasses⟩ := hreduce sighting (P ++ id₁ ++ S)
  obtain ⟨b, hb, hpasses'⟩ := hreduce sighting (P ++ id₂ ++ S)
  refine ⟨rules, a, b, hrules, ha, hb, ?_⟩
  obtain ⟨A, hP⟩ := List.getLast?_eq_some_iff.mp hu
  obtain ⟨B, hS⟩ := List.head?_eq_some_iff.mp hv
  rw [List.append_assoc] at hpasses hpasses'
  refine eq_of_inside hpasses hpasses' ?_
  rw [components_id hP hS hplaced.hex₁, components_id hP hS hplaced.hex₂]
  exact forall₂_inside hplaced hsame hP hS hids

/-- Between the two ends of a control group, and as a component of their own, any two ids that a
single star covers have one outcome. -/
theorem reduce?_interchanges_ids_in_two_places :
    Placed "/sys/fs/cgroup/kubepods-pod_".toList ".slice/tasks".toList (List.replicate 30 'a')
      (List.replicate 30 'b') ∧
    (∃ rules a b, ruleset = .ok rules ∧
      rules.reduce? ⟨none, 5⟩ ("/sys/fs/cgroup/kubepods-pod_".toList ++ List.replicate 30 'a' ++
        ".slice/tasks".toList) = some a ∧
      rules.reduce? ⟨none, 5⟩ ("/sys/fs/cgroup/kubepods-pod_".toList ++ List.replicate 30 'b' ++
        ".slice/tasks".toList) = some b ∧ a.path = b.path) ∧
    Placed "/x/".toList "/y".toList (List.replicate 30 'a') (List.replicate 30 'b') ∧
    ∃ rules a b, ruleset = .ok rules ∧
      rules.reduce? ⟨none, 5⟩ ("/x/".toList ++ List.replicate 30 'a' ++ "/y".toList) = some a ∧
      rules.reduce? ⟨none, 5⟩ ("/x/".toList ++ List.replicate 30 'b' ++ "/y".toList) = some b ∧
      a.path = b.path := by
  have hplaced : Placed "/sys/fs/cgroup/kubepods-pod_".toList ".slice/tasks".toList
      (List.replicate 30 'a') (List.replicate 30 'b') := by decide
  have hplaced' : Placed "/x/".toList "/y".toList (List.replicate 30 'a') (List.replicate 30 'b') := by
    decide
  have hno : ∀ name ∈ names, ¬ '/' :: (name ++ ['/']) <:+ "/x/".toList := by decide
  have hsame : Same none [] [] (List.replicate 30 'a') (List.replicate 30 'b') :=
    same_of_alone fun hshort => absurd hshort (by decide)
  refine ⟨hplaced, ?_, hplaced', ?_⟩
  · refine reduce?_interchanges_ids ⟨none, 5⟩ hplaced
      (by decide +kernel : _ = some "kubepods-pod_".toList)
      (by decide +kernel : _ = some ".slice".toList) ⟨?_, ?_, ?_⟩ (Or.inl ⟨Or.inl rfl, ?_⟩)
    · exact fun hbetween => absurd hbetween.1 (by decide)
    · exact fun hlong => absurd hlong (by decide)
    · exact fun _ _ hbetween => absurd hbetween.2 (by decide)
    · exact ⟨⟨"kubepods-", by decide, by decide⟩, ".slice".toList, by decide, by decide⟩
  · refine reduce?_interchanges_ids ⟨none, 5⟩ hplaced' (by decide +kernel : _ = some [])
      (by decide +kernel : _ = some []) ⟨?_, ?_, ?_⟩ (Or.inr (Or.inl hsame))
    · exact fun hbetween => absurd hbetween.1 (by decide)
    · exact fun hlong => absurd hlong (by decide)
    · exact fun name hname hbetween => absurd hbetween.1 (hno name hname)

/-- Two ids in one place whose outcomes differ. -/
def ToldApart (rules : Ruleset) (sighting : Sighting) (P S id₁ id₂ : List Char) : Prop :=
  Placed P S id₁ id₂ ∧ ∃ a b, rules.reduce? sighting (P ++ id₁ ++ S) = some a ∧
    rules.reduce? sighting (P ++ id₂ ++ S) = some b ∧ a.path ≠ b.path

lemma eq_of_passes_long {pid : UInt32} {out : List Char} (hhex : ∀ c ∈ id, isHex c = true)
    (hlo : 64 ≤ id.length) (hhi : id.length < 92) (h : Passes ⟨some "proc", pid⟩ ('/' :: id) out) :
    out = '/' :: '*' :: id.drop 64 := by
  have hoff : ¬ OnSysfs (some "proc") := by decide
  have hnot : ∀ {c}, isHex c = false → c ∉ id := fun hc hmem => by
    rw [hhex _ hmem] at hc
    cases hc
  obtain ⟨e, f, hinside, hdevice, htoken⟩ := inside_of_passes h
  obtain rfl := hdevice.2 hoff
  have hcomponents : written pid (components ('/' :: id)) = [[], id] := by
    rw [components_slash, components_of_not_mem (hnot (by decide))]
    rfl
  rw [hcomponents] at hinside
  obtain ⟨e₁, es, hfirst, hlater, he⟩ := List.forall₂_cons_left_iff.mp hinside
  obtain ⟨e₂, es, hsecond, hnil, rfl⟩ := List.forall₂_cons_left_iff.mp hlater
  obtain rfl := List.forall₂_nil_left_iff.mp hnil
  obtain rfl : e₁ = [] := (sweeps_of_hyphenless List.not_mem_nil hfirst).eq_nil
  obtain ⟨e₃, rfl, hsweep⟩ := sweeps_of_long hhex (by omega)
    (sweeps_of_hyphenless (hnot not_isHex_hyphen) hsecond)
  obtain rfl := sweeps_of_short (fun c hc => hhex c (List.mem_of_mem_drop hc))
    (by rw [List.length_drop]; omega) hsweep
  have hstar : ∀ {c}, isHex c = false → c ≠ '*' → c ∉ '*' :: id.drop 64 := fun hc hne hmem =>
    hnot hc (List.mem_of_mem_drop ((List.mem_cons.mp hmem).resolve_left hne))
  obtain rfl : f = '/' :: '*' :: id.drop 64 := by
    refine components_injective (he.trans ?_)
    rw [components_slash, components_of_not_mem (hstar (by decide) (by decide))]
  refine htoken.eq_of_no_lead fun lead hlead hin => ?_
  have hs : 's' ∈ lead := by
    rw [List.mem_singleton.mp hlead]
    decide
  exact hstar (by decide) (by decide) ((List.mem_cons.mp (hin.subset hs)).resolve_left (by decide))

/-- Ids are told apart by the number of the process itself, and by what a star leaves of them. -/
theorem reduce?_tells_ids_apart : ∃ rules, ruleset = .ok rules ∧
    ToldApart rules ⟨none, 5⟩ "/proc/".toList "/x".toList
      (List.replicate 27 '0' ++ ['5']) (List.replicate 28 '0') ∧
    ToldApart rules ⟨some "proc", 5⟩ "/".toList [] (List.replicate 64 'a' ++ ['b'])
      (List.replicate 64 'a' ++ ['c']) := by
  obtain ⟨rules, hrules, hreduce⟩ := exists_passes
  have hplaced : Placed "/".toList [] (List.replicate 64 'a' ++ ['b'])
      (List.replicate 64 'a' ++ ['c']) := by decide
  refine ⟨rules, hrules, ⟨by decide, ?_⟩, hplaced, ?_⟩
  · obtain ⟨a, ha, hpasses⟩ := hreduce ⟨none, 5⟩
      ("/proc/".toList ++ (List.replicate 27 '0' ++ ['5']) ++ "/x".toList)
    obtain ⟨b, hb, hpasses'⟩ := hreduce ⟨none, 5⟩
      ("/proc/".toList ++ List.replicate 28 '0' ++ "/x".toList)
    have hself := ((reduced_of_passes hpasses).getElem?_pid_iff (i := 2)
      (c := List.replicate 27 '0' ++ ['5']) (by decide) (by decide +kernel) (by decide +kernel)
      (by decide) (by decide +kernel)).mpr (Or.inl (by decide +kernel))
    have hother := ((reduced_of_passes hpasses').getElem?_pid_iff (i := 2)
      (c := List.replicate 28 '0') (by decide) (by decide +kernel) (by decide +kernel)
      (by decide) (by decide +kernel)).mpr (Or.inl (by decide +kernel))
    refine ⟨a, b, ha, hb, fun heq => ?_⟩
    rw [heq, hother] at hself
    exact absurd hself (by decide)
  · obtain ⟨a, ha, hpasses⟩ := hreduce ⟨some "proc", 5⟩
      ("/".toList ++ (List.replicate 64 'a' ++ ['b']) ++ [])
    obtain ⟨b, hb, hpasses'⟩ := hreduce ⟨some "proc", 5⟩
      ("/".toList ++ (List.replicate 64 'a' ++ ['c']) ++ [])
    refine ⟨a, b, ha, hb, ?_⟩
    rw [eq_of_passes_long hplaced.hex₁ (by decide) (by decide) hpasses,
      eq_of_passes_long hplaced.hex₂ (by decide) (by decide) hpasses']
    decide

end StablePath.Builtin
