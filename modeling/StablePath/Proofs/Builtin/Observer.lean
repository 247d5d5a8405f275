import StablePath.Proofs.Builtin.Shape
import StablePath.Proofs.Builtin.Twins
import StablePath.Proofs.Rule.Composition

/-!
What a reduced path tells about its observer.

The first sweep is the only one that looks at the observing process, and it makes twins of one path.
The other six do not look into the entries in which twins differ. So all that an observer changes is
the entry of its own number, and there it says no more than `self`.
-/

namespace StablePath.Builtin

open Pattern

/-! ### Components of twins -/

/-- Components that are the same, or two marks. -/
def Alike (c d : List Char) : Prop := c = d ∨ c ∈ marks ∧ d ∈ marks

lemma slashless_mark {c : List Char} (h : c ∈ marks) : '/' ∉ c := by
  revert c
  decide

/-- Twins have the same first component, since an entry has a name before its mark. -/
lemma Twins.exists_components {x y : List Char} (h : Twins x y) :
    ∃ c cs ds, components x = c :: cs ∧ components y = c :: ds ∧ List.Forall₂ Alike cs ds := by
  induction h with
  | nil => exact ⟨[], [], [], rfl, rfl, .nil⟩
  | @keep c x y _ ih =>
    obtain ⟨a, cs, ds, hx, hy, halike⟩ := ih
    by_cases hc : c = '/'
    · subst hc
      rw [components_slash, components_slash, hx, hy]
      exact ⟨[], a :: cs, a :: ds, rfl, rfl, .cons (Or.inl rfl) halike⟩
    · rw [components_cons hc, components_cons hc, hx, hy]
      exact ⟨c :: a, cs, ds, rfl, rfl, halike⟩
  | @swap u v x y hu hv _ ih =>
    obtain ⟨a, cs, ds, hx, hy, halike⟩ := ih
    rw [components_slash] at hx hy
    obtain ⟨-, rfl⟩ := List.cons.inj hx
    obtain ⟨-, rfl⟩ := List.cons.inj hy
    obtain ⟨m, hm, rfl⟩ := List.mem_map.mp hu
    obtain ⟨m', hm', rfl⟩ := List.mem_map.mp hv
    have hentry : ∀ {m} (z : List Char), m ∈ marks →
        components (stem ++ m ++ '/' :: z) = "proc".toList :: m :: components z := by
      intro m z hm
      have hassoc : stem ++ m ++ '/' :: z = "proc".toList ++ '/' :: (m ++ '/' :: z) := by
        simp [stem]
      rw [hassoc, components_append (by decide), components_append (slashless_mark hm)]
    exact ⟨_, _, _, hentry x hm, hentry y hm', .cons (Or.inr ⟨hm, hm'⟩) halike⟩

lemma Twins.length_components {x y : List Char} (h : Twins x y) :
    (components x).length = (components y).length := by
  obtain ⟨c, cs, ds, hx, hy, halike⟩ := h.exists_components
  rw [hx, hy, List.length_cons, List.length_cons, halike.length_eq]

/-- Where twins differ, both have a mark. -/
lemma Twins.mem_marks_of_ne {x y : List Char} (h : Twins x y) {i : Nat} {d e : List Char}
    (hd : (components x)[i]? = some d) (he : (components y)[i]? = some e) (hne : d ≠ e) :
    0 < i ∧ d ∈ marks ∧ e ∈ marks := by
  obtain ⟨c, cs, ds, hx, hy, halike⟩ := h.exists_components
  rw [hx] at hd
  rw [hy] at he
  cases i with
  | zero => exact absurd (Option.some.inj (hd.symm.trans he)) hne
  | succ i =>
    rw [List.getElem?_cons_succ] at hd he
    obtain ⟨hi, rfl⟩ := List.getElem?_eq_some_iff.mp hd
    obtain ⟨hi', rfl⟩ := List.getElem?_eq_some_iff.mp he
    rcases halike.get hi hi' with heq | hmarks
    · exact absurd heq hne
    · exact ⟨Nat.succ_pos i, hmarks⟩

/-! ### The blind sweeps -/

/-- What has a character that is in no entry is not the beginning of one, and no entry begins
before that character. -/
lemma not_comparable {l r : List Char} {k : Char} (hk : k ∉ stem) (hl : ¬ stem <:+: l) :
    ¬ l ++ k :: r <+: stem ∧ ¬ stem <+: l ++ k :: r :=
  ⟨fun h => hk (h.subset (by simp)), fun h => hl (prefix_of_append_cons hk h).isInfix⟩

lemma apart_of_span {a m b : List Char} (hne : m ≠ []) (hm : ∀ k ∈ m, k ∉ stem)
    (ha : ¬ stem <:+: a) (hb : Apart b) : Apart (a ++ m ++ b) := by
  intro s hs hs'
  obtain ⟨t, ht⟩ := (List.mem_tails _ _).mp hs
  rw [List.append_assoc] at ht
  have hnil : ¬ stem <:+: [] := by decide
  rcases List.append_eq_append_iff.mp ht with ⟨a', rfl, rfl⟩ | ⟨t', rfl, hmore⟩
  · -- the suffix has all of the span
    obtain ⟨k, m', rfl⟩ := List.exists_cons_of_ne_nil hne
    have ha' : ¬ stem <:+: a' := fun h => ha (h.trans (List.suffix_append t a').isInfix)
    rw [List.cons_append]
    exact not_comparable (hm k List.mem_cons_self) ha'
  · rcases List.append_eq_append_iff.mp hmore with ⟨b', rfl, hb'⟩ | ⟨m', rfl, rfl⟩
    · exact hb s ((List.mem_tails _ _).mpr ⟨b', hb'.symm⟩) hs'
    · cases m' with
      | nil => exact hb b ((List.mem_tails _ _).mpr List.suffix_rfl) hs'
      | cons k m' => exact not_comparable (l := []) (hm k (by simp)) hnil

section

variable {leads tails : List (List Char)} {lo : Nat} {p : Char → Bool} {hit : Hit}

lemma apart_of_around (hlo : 0 < lo) (hp : stem.any p = false)
    (hleads : ∀ lead ∈ leads, ¬ stem <:+: lead) (htails : ∀ tail ∈ tails, Apart tail)
    (h : Around leads lo p tails hit) : Apart hit.taken := by
  obtain ⟨hlead, henough, hspan, htail⟩ := h
  refine apart_of_span (List.ne_nil_of_length_pos (by omega)) (fun k hk hmem => ?_)
    (hleads _ hlead) (htails _ htail)
  exact List.any_eq_false.mp hp k hmem (hspan k hk)

end

lemma blind_task : Blind (Longest (segment "task")) (NoHit (segment "task")) :=
  blind_longest (by decide) (by decide) (by decide) (by decide +kernel) fun _ =>
    apart_of_around Nat.one_pos (by decide) (by decide) (by decide)

lemma blind_device : Blind (Longest device) (NoHit device) :=
  blind_longest (by decide) (by decide) (by decide) (by decide +kernel) fun _ =>
    apart_of_around Nat.one_pos (by decide) (by decide +kernel) (by decide)

lemma blind_token : Blind (Longest token) (NoHit token) :=
  blind_longest (by decide) (by decide) (by decide) (by decide +kernel) fun _ =>
    apart_of_around Nat.one_pos (by decide) (by decide +kernel) (by decide)

/-- What a control group takes has no slash, and it ends with a letter that is in no entry. -/
lemma apart_of_cgroup {lead : String} (hlead : '/' ∉ lead.toList) {hit : Hit}
    (h : cgroup lead hit) : Apart hit.taken := by
  obtain ⟨hhead, -, hspan, htail⟩ := h
  have hslash : '/' ∉ hit.taken := by
    have htail' : ∀ tail ∈ suffixes, '/' ∉ tail := by decide
    rw [Hit.taken, List.mem_append, List.mem_append, List.mem_singleton.mp hhead]
    rintro ((hmem | hmem) | hmem)
    · exact hlead hmem
    · simpa using hspan _ hmem
    · exact htail' _ htail hmem
  have hlast : hit.taken.getLast? = some 'e' := by
    have htail' : ∀ tail ∈ suffixes, tail.getLast? = some 'e' := by decide
    rw [Hit.taken, List.getLast?_append, htail' _ htail]
    rfl
  intro s hs hne
  have hsuffix := (List.mem_tails _ _).mp hs
  refine ⟨fun h => ?_, fun h => hslash (hsuffix.subset (h.subset (by decide)))⟩
  obtain ⟨t, ht⟩ := hsuffix
  rw [← ht, List.getLast?_append_of_ne_nil _ hne] at hlast
  exact absurd (h.subset (List.mem_of_getLast? hlast)) (by decide)

lemma blind_pod : Blind (Longest (cgroup "kubepods-")) (NoHit (cgroup "kubepods-")) :=
  blind_longest (by decide) (by decide) (by decide) (by decide +kernel) fun _ =>
    apart_of_cgroup (by decide)

lemma blind_containerd :
    Blind (Longest (cgroup "cri-containerd-")) (NoHit (cgroup "cri-containerd-")) :=
  blind_longest (by decide) (by decide) (by decide) (by decide +kernel) fun _ =>
    apart_of_cgroup (by decide)

/-! ### Container ids -/

lemma apart_of_not_mem {w : List Char} (h : 'p' ∉ w) : Apart w := by
  intro s hs hne
  have hsub := ((List.mem_tails _ _).mp hs).subset
  refine ⟨fun hstart => ?_, fun hstart => h (hsub (hstart.subset (by decide)))⟩
  cases s with
  | nil => exact hne rfl
  | cons c s =>
    obtain ⟨rfl, -⟩ := List.cons_prefix_cons.mp hstart
    exact h (hsub List.mem_cons_self)

lemma apart_of_hex {w : List Char} (h : ∀ c ∈ w, isHexOrHyphen c = true) : Apart w :=
  apart_of_not_mem fun hmem => absurd (h 'p' hmem) (by decide)

/-- An id that starts a text starts its twin, since no entry begins in it. -/
lemma idLength?_twins {x y : List Char} (h : Twins x y) : idLength? x = idLength? y := by
  obtain ⟨run, more, rfl, hrun, hmore⟩ : ∃ run more, x = run ++ more ∧
      (∀ c ∈ run, isHexOrHyphen c = true) ∧ ∀ c ∈ more.head?, isHexOrHyphen c = false := by
    refine ⟨_, _, (List.takeWhile_append_dropWhile (p := isHexOrHyphen)).symm, ?_, fun c hc => ?_⟩
    · exact List.all_eq_true.mp List.all_takeWhile
    · have hhead := List.head?_dropWhile_not isHexOrHyphen x
      rw [Option.mem_def.mp hc] at hhead
      simpa using hhead
  obtain ⟨more', rfl, htwins⟩ := h.exists_append (apart_of_hex hrun)
  rw [idLength?_append hmore, idLength?_append (htwins.head?_eq ▸ hmore)]

lemma blind_id : Blind IsId NoId where
  toExact := exact_id
  apart hit h := by
    refine apart_of_hex ?_
    simpa [Hit.taken, h.lead, h.tail] using h.isContainerId.chars
  outside hit h b hb s hs hne := by
    -- an id is longer than an entry, and it has no slash
    rintro ⟨rest, hrest⟩
    obtain ⟨w, hw, hcore⟩ := h.isContainerId.core
    have hlen : s.length < w.length := by
      have hshort : ∀ b ∈ entries, b.length < 28 := by decide
      rw [hcore.length_eq]
      exact Nat.lt_of_le_of_lt ((List.mem_tails _ _).mp hs).length_le (hshort b hb)
    have hstart : s ++ ['/'] <+: w := by
      refine List.prefix_of_prefix_length_le ⟨rest, hrest⟩ ?_ (by simp; omega)
      exact hw.trans ⟨hit.rest, h.text_eq.symm⟩
    exact absurd (hcore.chars '/' (hstart.subset (by simp))) (by decide)
  slash hit h rest htext := by
    obtain ⟨w, hw, hcore⟩ := h.isContainerId.core
    obtain ⟨c, w, rfl⟩ := List.exists_cons_of_ne_nil hcore.ne_star.1
    obtain ⟨more, hmore⟩ := hw.trans ⟨hit.rest, h.text_eq.symm⟩
    obtain ⟨rfl, -⟩ := List.cons.inj (hmore.trans htext)
    exact absurd (hcore.chars '/' List.mem_cons_self) (by decide)
  twin hit h rest htwins := by
    refine ⟨h.lead, h.tail, ?_⟩
    have htext : Twins hit.text ({ hit with rest } : Hit).text := htwins.kept hit.taken
    rw [← idLength?_twins htext, h.length]

/-! ### The whole reduction -/

/-- Two processes make twins of one path. -/
lemma twins_of_first {p q : UInt32} {path x y : List Char}
    (h : Pass (segment "proc") (pidOrStar p) path x)
    (h' : Pass (segment "proc") (pidOrStar q) path y) : Twins x y := by
  have hexact : Exact (Longest (segment "proc")) (NoHit (segment "proc")) :=
    exact_longest (by decide) (by decide)
  unfold Pass at h h'
  induction h generalizing y with
  | done =>
    obtain rfl := h'.eq_nil
    exact .nil
  | @skip c text x none later ih =>
    obtain ⟨y, rfl, later'⟩ := h'.of_none hexact none
    exact .keep c (ih later')
  | @hit hit x found ne later ih =>
    obtain ⟨y, rfl, later'⟩ := h'.of_hit hexact found ne
    have htwins := ih later'
    obtain ⟨⟨hlead, henough, hspan, htail⟩, -⟩ := found
    have hnumber : isNumber hit.span = true :=
      isNumber_iff.mpr ⟨List.length_pos_iff.mp henough, hspan⟩
    rw [List.mem_singleton.mp hlead, List.mem_singleton.mp htail, pidOrStar_of_isNumber p hnumber,
      pidOrStar_of_isNumber q hnumber]
    -- behind the name there are two marks, or the number itself
    split_ifs
    · have hentry : ∀ pid, stem ++ Edit.pidText pid (decimal hit.span) ∈ entries := fun pid =>
        List.mem_map_of_mem (pidText_mem_marks pid _)
      have hswap := Twins.keep '/' (.swap (hentry p) (hentry q) (.keep '/' htwins))
      simpa [stem] using hswap
    · exact htwins.kept _

lemma twins_of_sysfsPass {shape : Hit → Prop} (hblind : Blind (Longest shape) (NoHit shape))
    {filesystem : Option String} {x y x' y' : List Char} (h : SysfsPass filesystem shape x x')
    (h' : SysfsPass filesystem shape y y') (htwins : Twins x y) : Twins x' y' := by
  by_cases hon : OnSysfs filesystem
  · exact hblind.sweeps_twins (h.1 hon) (h'.1 hon) htwins
  · rw [h.2 hon, h'.2 hon]
    exact htwins

theorem twins_of_passes {filesystem : Option String} {p q : UInt32} {path x y : List Char}
    (h : Passes ⟨filesystem, p⟩ path x) (h' : Passes ⟨filesystem, q⟩ path y) : Twins x y := by
  cases h with
  | mk pid thread pod containerd id device token =>
  cases h' with
  | mk pid' thread' pod' containerd' id' device' token' =>
  have hpid := twins_of_first pid pid'
  have hthread := blind_task.sweeps_twins thread thread' hpid
  have hpod := twins_of_sysfsPass blind_pod pod pod' hthread
  have hcontainerd := twins_of_sysfsPass blind_containerd containerd containerd' hpod
  have hid := blind_id.sweeps_twins id id' hcontainerd
  have hdevice := twins_of_sysfsPass blind_device device device' hid
  exact blind_token.sweeps_twins token token' hdevice

lemma star_mem_of_covers {c d : List Char} (h : Covers c d) : '*' ∈ d := by
  obtain ⟨parts, rest, hne, -, rfl⟩ := h
  obtain ⟨part, parts, rfl⟩ := List.exists_cons_of_ne_nil hne
  simp

/-- Only the entry of its own number shows an observer that another one does not show. -/
lemma entryOf_of_self {filesystem : Option String} {p q : UInt32} {path x y : List Char}
    (h : Passes ⟨filesystem, p⟩ path x) (h' : Passes ⟨filesystem, q⟩ path y) {i : Nat} (hi : 0 < i)
    (hself : (components x)[i]? = some "self".toList)
    (hother : (components y)[i]? ≠ some "self".toList) : EntryOf p (components path) i := by
  obtain ⟨c, hc⟩ := exists_getElem?_of_length_eq (reduced_of_passes h).length_eq.symm hself
  obtain ⟨d, hd, hcases⟩ := component_of_passes h hc
  obtain rfl : d = "self".toList := Option.some.inj (hd.symm.trans hself)
  rcases hcases with rfl | ⟨-, hentry⟩ | hcovers
  · -- what reads `self` in the path does so for both
    have hwritten := getElem?_written_of_not_number q hc (by decide)
    exact absurd ((reduced_of_passes h').getElem?_of_word (by decide) hi hwritten) hother
  · exact hentry
  · exact absurd (star_mem_of_covers hcovers) (by decide)

lemma mem_marks_iff {c : List Char} : c ∈ marks ↔ c = "self".toList ∨ c = "*".toList := by
  simp [marks]

/-- **The observing process shows only in its own entry.** Two processes reduce a path to as many
components and edit it in the same cases. Where their outcomes differ, there is the number of one of
them behind `proc` in the path; that process writes `self` and the other one a star. -/
theorem reduce?_observer : ∃ rules, ruleset = .ok rules ∧ ∀ filesystem p q path, ∃ a b,
    rules.reduce? ⟨filesystem, p⟩ path = some a ∧ rules.reduce? ⟨filesystem, q⟩ path = some b ∧
    a.edited = b.edited ∧ (components a.path).length = (components b.path).length ∧
    ∀ i, (components a.path)[i]? ≠ (components b.path)[i]? →
      EntryOf p (components path) i ∧ (components a.path)[i]? = some "self".toList ∧
          (components b.path)[i]? = some "*".toList ∨
        EntryOf q (components path) i ∧ (components a.path)[i]? = some "*".toList ∧
          (components b.path)[i]? = some "self".toList := by
  obtain ⟨rules, hrules, hreduce⟩ := exists_passes
  refine ⟨rules, hrules, fun filesystem p q path => ?_⟩
  obtain ⟨a, ha, hpasses⟩ := hreduce ⟨filesystem, p⟩ path
  obtain ⟨b, hb, hpasses'⟩ := hreduce ⟨filesystem, q⟩ path
  have htwins := twins_of_passes hpasses hpasses'
  have hlength := htwins.length_components
  refine ⟨a, b, ha, hb, ?_, hlength, fun i hne => ?_⟩
  · -- whether a path is edited is decided without the process
    obtain ⟨a', ha', hedited, -⟩ := Ruleset.exists_reduce? rules.rules ⟨filesystem, p⟩ path
    obtain ⟨b', hb', hedited', -⟩ := Ruleset.exists_reduce? rules.rules ⟨filesystem, q⟩ path
    obtain rfl : a = a' := Option.some.inj (ha.symm.trans ha')
    obtain rfl : b = b' := Option.some.inj (hb.symm.trans hb')
    rw [Bool.eq_iff_iff, ← not_iff_not, Bool.not_eq_true, Bool.not_eq_true]
    exact hedited.trans hedited'.symm
  · obtain ⟨d, hd⟩ : ∃ d, (components a.path)[i]? = some d := by
      rw [← Option.ne_none_iff_exists']
      intro hnone
      have hout := List.getElem?_eq_none_iff.mp hnone
      exact hne (hnone.trans (List.getElem?_eq_none_iff.mpr (hlength ▸ hout)).symm)
    obtain ⟨e, he⟩ := exists_getElem?_of_length_eq hlength.symm hd
    have hde : d ≠ e := fun heq => hne (hd.trans (heq ▸ he.symm))
    -- twins differ in marks only, and `self` tells whose entry it is
    obtain ⟨hi, hmark, hmark'⟩ := htwins.mem_marks_of_ne hd he hde
    rcases mem_marks_iff.mp hmark with rfl | rfl
    · obtain rfl := (mem_marks_iff.mp hmark').resolve_left hde.symm
      refine Or.inl ⟨entryOf_of_self hpasses hpasses' hi hd ?_, hd, he⟩
      rw [he]
      decide
    · obtain rfl := (mem_marks_iff.mp hmark').resolve_right hde.symm
      refine Or.inr ⟨entryOf_of_self hpasses' hpasses hi he ?_, hd, he⟩
      rw [hd]
      decide

end StablePath.Builtin
