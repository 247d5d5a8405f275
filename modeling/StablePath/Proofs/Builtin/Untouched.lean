import StablePath.Proofs.Builtin.IdRuns
import StablePath.Proofs.Builtin.Survivors

/-!
Components under stars.

The last five rules put their stars inside components. They leave the names alone that numbers
stand behind, what is written over numbers, and a number behind such a name, unless it is long
enough for a container id.
-/

namespace StablePath

open Pattern Builtin

namespace Masks

variable {W : List Char → List Char → Prop} {before text out : List Char}

/-- Up to its first slash the outcome comes from the text up to its first slash. -/
lemma exists_of_slash (hW : ∀ before old, W before old → '/' ∉ old) {d out' : List Char}
    (hd : '/' ∉ d) (h : Masks W before text (d ++ '/' :: out')) :
    ∃ c text', text = c ++ '/' :: text' ∧ '/' ∉ c ∧ Masks W before c d ∧
      Masks W (before ++ d ++ ['/']) text' out' := by
  obtain ⟨c, more, rfl, hc, hmore⟩ := h.split
  have hone : '/' :: out' = ['/'] ++ out' := rfl
  rw [hone] at hmore
  obtain ⟨text', rfl, hrest⟩ := hmore.split_of_not_mem (by decide)
  exact ⟨c, text', rfl, hc.not_mem hW hd, hc, hrest⟩

lemma head_components (hW : ∀ before old, W before old → '/' ∉ old) (h : Masks W before text out)
    {d : List Char} {ds : List (List Char)} (hout : components out = d :: ds) :
    ∃ c cs, components text = c :: cs ∧ Masks W before c d := by
  cases ds with
  | nil =>
    obtain ⟨rfl, hd⟩ := eq_of_components_eq_singleton hout
    exact ⟨text, [], components_of_not_mem (h.not_mem hW hd), h⟩
  | cons e ds =>
    obtain ⟨out', rfl, hd, -⟩ := exists_of_components_eq hout
    obtain ⟨c, text', rfl, hc, hmasks, -⟩ := h.exists_of_slash hW hd
    exact ⟨c, components text', components_append hc text', hmasks⟩

/-- Behind a slash each component of the outcome comes from the one of the text, with what the
outcome has before it. -/
lemma exists_component (hW : ∀ before old, W before old → '/' ∉ old) (h : Masks W before text out)
    {i : Nat} {b d : List Char} (hb : (components out)[i]? = some b)
    (hd : (components out)[i + 1]? = some d) :
    ∃ front c, (components text)[i + 1]? = some c ∧ Masks W (front ++ b ++ ['/']) c d := by
  induction i generalizing before text out with
  | zero =>
    obtain ⟨ds, hout⟩ : ∃ ds, components out = b :: d :: ds := by
      rcases hcs : components out with _ | ⟨b', _ | ⟨d', ds⟩⟩
      all_goals simp [hcs] at hb hd
      exact ⟨ds, by rw [hb, hd]⟩
    obtain ⟨out', rfl, hslash, hout'⟩ := exists_of_components_eq hout
    obtain ⟨a, text', rfl, ha, -, hrest⟩ := h.exists_of_slash hW hslash
    obtain ⟨c, cs, htext', hmasks⟩ := hrest.head_components hW hout'
    exact ⟨before, c, by simp [components_append ha, htext'], hmasks⟩
  | succ i ih =>
    obtain ⟨b', d', ds, hout⟩ : ∃ b' d' ds, components out = b' :: d' :: ds := by
      rcases hcs : components out with _ | ⟨b', _ | ⟨d', ds⟩⟩
      all_goals simp [hcs] at hb hd
      exact ⟨b', d', ds, rfl⟩
    obtain ⟨out', rfl, hslash, -⟩ := exists_of_components_eq hout
    obtain ⟨a, text', rfl, ha, -, hrest⟩ := h.exists_of_slash hW hslash
    rw [components_append hslash] at hb hd
    obtain ⟨front, c, hc, hmasks⟩ := ih hrest hb hd
    exact ⟨front, c, by rwa [components_append ha], hmasks⟩

lemma length_components (hW : ∀ before old, W before old → '/' ∉ old)
    (h : Masks W before text out) : (components out).length = (components text).length := by
  induction hn : (components out).length generalizing before text out with
  | zero => exact absurd (List.length_eq_zero_iff.mp hn) (components_ne_nil out)
  | succ n ih =>
    rcases hcs : components out with _ | ⟨d, _ | ⟨e, ds⟩⟩
    · exact absurd hcs (components_ne_nil out)
    · obtain ⟨rfl, hd⟩ := eq_of_components_eq_singleton hcs
      rw [components_of_not_mem (h.not_mem hW hd)]
      simpa [hcs] using hn.symm
    · obtain ⟨out', rfl, hd, hout'⟩ := exists_of_components_eq hcs
      obtain ⟨c, text', rfl, hc, -, hrest⟩ := h.exists_of_slash hW hd
      rw [components_append hd, List.length_cons] at hn
      rw [components_append hc, List.length_cons, ← ih hrest (Nat.succ_inj.mp hn)]

/-- What has no part that may be covered stays. -/
lemma eq_of_uncovered (hW : ∀ x old y, text = x ++ old ++ y → ¬ W (before ++ x) old)
    (h : Masks W before text out) : out = text := by
  induction h with
  | nil => rfl
  | keep c _ ih =>
    rw [ih fun x old y htext hold => hW (c :: x) old y (by simp [htext]) (by simpa using hold)]
  | mask old hold _ => exact absurd (by simpa using hold) (hW [] old _ rfl)

end Masks

end StablePath

namespace StablePath.Builtin

open Pattern

/-! ### What stars cannot cover -/

/-- The names that numbers stand behind. -/
def names : List (List Char) := ["proc".toList, "task".toList]

/-- What is written over numbers. -/
def marks : List (List Char) := [['s', 'e', 'l', 'f'], ['*']]

/-- What the sweeps over numbers look for and what they write. -/
def words : List (List Char) := names ++ marks

/-- Of a component behind another one nothing can be covered. -/
def Spares (W : List Char → List Char → Prop) (b c : List Char) : Prop :=
  ∀ front x old y, c = x ++ old ++ y → ¬ W (front ++ b ++ ['/'] ++ x) old

variable {leads : List (List Char)} {lo : Nat} {p : Char → Bool} {b c : List Char}

/-- Stars that come behind texts which end in no slash and in no character of the component. -/
lemma spares_of_last (q : Char → Bool) (hleads : ∀ lead ∈ leads, lead.getLast?.any q = true)
    (hq : ('/' :: c).any q = false) : Spares (Under leads lo p) b c := by
  rintro front x old y rfl ⟨⟨lead, hlead, before, hbefore⟩, -, -⟩
  obtain ⟨k, hk, hqk⟩ := (Option.any_eq_true _ _).mp (hleads lead hlead)
  have hlast : (front ++ b ++ ['/'] ++ x).getLast? = some k := by
    rw [← hbefore, List.getLast?_append, hk]
    rfl
  rw [List.append_assoc, List.getLast?_append_of_ne_nil _ (by simp)] at hlast
  have hmem : k ∈ '/' :: (x ++ old ++ y) := by
    have := List.mem_of_getLast? hlast
    simp only [List.mem_append, List.mem_cons] at this ⊢
    tauto
  exact List.any_eq_false.mp hq k hmem hqk

lemma spares_of_class (hlo : 0 < lo) (hc : c.any p = false) : Spares (Under leads lo p) b c := by
  rintro front x old y rfl ⟨-, henough, hspan⟩
  obtain ⟨k, old, rfl⟩ := List.exists_cons_of_length_pos (Nat.lt_of_lt_of_le hlo henough)
  exact List.any_eq_false.mp hc k (by simp) (hspan k List.mem_cons_self)

lemma spares_of_length (hc : c.length < lo) : Spares (Under leads lo p) b c := by
  rintro front x old y rfl ⟨-, henough, -⟩
  simp only [List.length_append] at hc
  omega

/-- Stars that come behind a component with its slash, and it is another one. -/
lemma spares_of_slash {lead : List Char} (hlast : lead.getLast? = some '/') (hc : '/' ∉ c)
    (hlong : (b ++ ['/']).length ≤ lead.length) (hb : ¬ b ++ ['/'] <:+ lead) :
    Spares (Under [lead] lo p) b c := by
  rintro front x old y rfl ⟨⟨_, hlead, hsuffix⟩, -, -⟩
  obtain rfl := List.mem_singleton.mp hlead
  cases hx : x.getLast? with
  | none =>
    obtain rfl := List.getLast?_eq_none_iff.mp hx
    rw [List.append_nil, List.append_assoc] at hsuffix
    exact hb (List.suffix_of_suffix_length_le (List.suffix_append _ _) hsuffix hlong)
  | some k =>
    obtain ⟨before, hbefore⟩ := hsuffix
    have hk : (front ++ b ++ ['/'] ++ x).getLast? = some '/' := by
      rw [← hbefore, List.getLast?_append, hlast]
      rfl
    rw [List.getLast?_append, hx] at hk
    obtain rfl : k = '/' := Option.some.inj hk
    exact hc (by simp [List.mem_of_getLast? hx])

/-- Stars spare the words, and behind a name they spare numbers with fewer digits than a limit. -/
structure Sparing (limit : Nat) (W : List Char → List Char → Prop) : Prop where
  slash : ∀ before old, W before old → '/' ∉ old
  word : ∀ b, ∀ c ∈ words, Spares W b c
  number : ∀ b ∈ names, ∀ c, isNumber c = true → c.length < limit → Spares W b c

lemma any_eq_false_of_isNumber (h : isNumber c = true) :
    ('/' :: c).any (fun k => k != '/' && !k.isDigit) = false := by
  refine List.any_eq_false.mpr fun k hk => ?_
  rcases List.mem_cons.mp hk with rfl | hk
  · decide
  · simp [(isNumber_iff.mp h).2 k hk]

lemma sparing_cgroup (limit : Nat) {lead : String} (hlead : lead.toList.getLast? = some '-') :
    Sparing limit (Under [lead.toList] 0 (· != '/')) where
  slash _ _ h := slashless_cgroup h
  word b c hc := by
    refine spares_of_last (· == '-') (by simp [hlead]) ?_
    revert c
    decide
  number b _ c hc _ := by
    refine spares_of_last (fun k => k != '/' && !k.isDigit) ?_ (any_eq_false_of_isNumber hc)
    simp [hlead]

lemma sparing_id : Sparing 28 (Under [[]] 28 isHexOrHyphen) where
  slash before old h := (plain_id before old h).2.2
  word b c hc := by
    refine spares_of_length ?_
    revert c
    decide
  number b _ c _ hshort := spares_of_length hshort

lemma sparing_device (limit : Nat) : Sparing limit (Under deviceLeads 1 Char.isDigit) where
  slash before old h := (plain_device before old h).2.2
  word b c hc := by
    refine spares_of_class Nat.one_pos ?_
    revert c
    decide
  number b _ c hc _ :=
    spares_of_last (fun k => k != '/' && !k.isDigit) (by decide) (any_eq_false_of_isNumber hc)

lemma sparing_token (limit : Nat) : Sparing limit (Under [tokenLead] 1 isTokenChar) where
  slash before old h := (plain_token before old h).2.2
  word b c hc := by
    refine spares_of_class Nat.one_pos ?_
    revert c
    decide
  number b hb c hc _ := by
    refine spares_of_slash (by decide) (isNumber_slashless hc) ?_ ?_
    · revert b
      decide
    · revert b
      decide

/-! ### Components under stars -/

/-- Components with stars in some of them. Those without a star are as they were, and what is
spared has stayed. -/
structure Starring (limit : Nat) (cs ds : List (List Char)) : Prop where
  length_eq : ds.length = cs.length
  old : ∀ i d, ds[i + 1]? = some d → '*' ∉ d → cs[i + 1]? = some d
  word : ∀ i, ∀ c ∈ words, cs[i + 1]? = some c → ds[i + 1]? = some c
  number : ∀ i, ∀ b ∈ names, ∀ c, cs[i + 1]? = some b → cs[i + 2]? = some c →
    isNumber c = true → c.length < limit → ds[i + 2]? = some c

lemma mem_words_of_mem_names (h : b ∈ names) : b ∈ words := List.mem_append_left _ h

namespace Starring

variable {limit : Nat} {cs ds es : List (List Char)}

lemma refl (limit : Nat) (cs : List (List Char)) : Starring limit cs cs where
  length_eq := rfl
  old _ _ hd _ := hd
  word _ _ _ hc := hc
  number _ _ _ _ _ hc _ _ := hc

lemma trans (h : Starring limit cs ds) (h' : Starring limit ds es) : Starring limit cs es where
  length_eq := h'.length_eq.trans h.length_eq
  old i d hd hstar := h.old i d (h'.old i d hd hstar) hstar
  word i c hc hcs := h'.word i c hc (h.word i c hc hcs)
  number i b hb c hbs hcs hnumber hshort := by
    have hbs' := h.word i b (mem_words_of_mem_names hb) hbs
    exact h'.number i b hb c hbs' (h.number i b hb c hbs hcs hnumber hshort) hnumber hshort

end Starring

variable {limit : Nat} {text out : List Char}

lemma exists_getElem?_of_length_eq {cs ds : List (List Char)} (h : ds.length = cs.length) {i : Nat}
    (hc : cs[i]? = some c) : ∃ d, ds[i]? = some d := by
  obtain ⟨hlt, -⟩ := List.getElem?_eq_some_iff.mp hc
  exact ⟨_, List.getElem?_eq_getElem (h ▸ hlt)⟩

lemma exists_getElem?_of_succ {ds : List (List Char)} {i : Nat} {d : List Char}
    (h : ds[i + 1]? = some d) : ∃ b, ds[i]? = some b := by
  obtain ⟨hlt, -⟩ := List.getElem?_eq_some_iff.mp h
  exact ⟨_, List.getElem?_eq_getElem (Nat.lt_of_succ_lt hlt)⟩

/-- A component of which nothing can be covered stays. -/
lemma getElem?_of_spares {W : List Char → List Char → Prop}
    (hW : ∀ before old, W before old → '/' ∉ old) {before : List Char}
    (h : Masks W before text out) {i : Nat} (hc : (components text)[i + 1]? = some c)
    (hspares : ∀ b, (components out)[i]? = some b → Spares W b c) :
    (components out)[i + 1]? = some c := by
  obtain ⟨d, hd⟩ := exists_getElem?_of_length_eq (h.length_components hW) hc
  obtain ⟨b, hb⟩ := exists_getElem?_of_succ hd
  obtain ⟨front, c', hc', hmasks⟩ := h.exists_component hW hb hd
  obtain rfl : c = c' := Option.some.inj (hc.symm.trans hc')
  rw [hd, hmasks.eq_of_uncovered (hspares b hb front)]

lemma starring_of_masks {W : List Char → List Char → Prop} (hW : Sparing limit W)
    (h : Masks W [] text out) : Starring limit (components text) (components out) where
  length_eq := h.length_components hW.slash
  old i d hd hstar := by
    obtain ⟨b, hb⟩ := exists_getElem?_of_succ hd
    obtain ⟨front, c, hc, hmasks⟩ := h.exists_component hW.slash hb hd
    rw [hc, hmasks.eq_of_not_mem hstar]
  word i c hc hcs := getElem?_of_spares hW.slash h hcs fun b _ => hW.word b c hc
  number i b hb c hbs hcs hnumber hshort := by
    have hbs' := getElem?_of_spares hW.slash h hbs fun a _ =>
      hW.word a b (mem_words_of_mem_names hb)
    refine getElem?_of_spares hW.slash h hcs fun b' hb' => ?_
    obtain rfl : b = b' := Option.some.inj (hbs'.symm.trans hb')
    exact hW.number b hb c hnumber hshort

lemma starring_of_sysfsPass {leads tails : List (List Char)} {lo : Nat} {p : Char → Bool}
    {filesystem : Option String} (hW : Sparing limit (Under leads lo p))
    (h : SysfsPass filesystem (Around leads lo p tails) text out) :
    Starring limit (components text) (components out) := by
  by_cases hon : OnSysfs filesystem
  · exact starring_of_masks hW ((h.1 hon).masks [])
  · rw [h.2 hon]
    exact .refl _ _

/-! ### Long numbers -/

/-- A component with a star keeps one, and it does not become a star by itself. -/
def KeepsStars (cs ds : List (List Char)) : Prop :=
  ∀ i c, cs[i + 1]? = some c → '*' ∈ c →
    ∃ d, ds[i + 1]? = some d ∧ '*' ∈ d ∧ (d = ['*'] ↔ c = ['*'])

lemma KeepsStars.refl (cs : List (List Char)) : KeepsStars cs cs :=
  fun _ c hc hstar => ⟨c, hc, hstar, Iff.rfl⟩

lemma KeepsStars.trans {cs ds es : List (List Char)} (h : KeepsStars cs ds)
    (h' : KeepsStars ds es) : KeepsStars cs es := by
  intro i c hc hstar
  obtain ⟨d, hd, hstar', hiff⟩ := h i c hc hstar
  obtain ⟨e, he, hstar'', hiff'⟩ := h' i d hd hstar'
  exact ⟨e, he, hstar'', hiff'.trans hiff⟩

lemma keepsStars_of_masks {W : List Char → List Char → Prop} (hW : Plain W)
    (h : Masks W [] text out) : KeepsStars (components text) (components out) := by
  have hslash : ∀ before old, W before old → '/' ∉ old := fun before old hold => (hW _ old hold).2.2
  intro i c hc hstar
  obtain ⟨d, hd⟩ := exists_getElem?_of_length_eq (h.length_components hslash) hc
  obtain ⟨b, hb⟩ := exists_getElem?_of_succ hd
  obtain ⟨front, c', hc', hmasks⟩ := h.exists_component hslash hb hd
  obtain rfl : c = c' := Option.some.inj (hc.symm.trans hc')
  refine ⟨d, hd, ?_, fun heq => ?_, fun heq => ?_⟩
  · by_contra hno
    rw [hmasks.eq_of_not_mem hno] at hstar
    exact hno hstar
  · exact hmasks.eq_star_of_mem (fun old hold => (hW _ old hold).2.1) heq hstar
  · refine hmasks.eq_star (fun hold => ?_) (fun hold => ?_) (fun hold => ?_) heq
    · exact (hW _ _ hold).1 rfl
    · exact (hW _ _ hold).2.1 (List.mem_singleton_self _)
    · exact (hW _ _ hold).1 rfl

/-- A number that is long enough for a container id is covered, and a star is all that is left of
it if it is not too long for one. -/
lemma getElem?_of_long_number (h : Sweeps IsId NoId star text out) {i : Nat}
    (hcs : (components text)[i]? = some c) (hc : isNumber c = true) (hlong : 28 ≤ c.length) :
    ∃ d, (components out)[i]? = some d ∧ '*' ∈ d ∧ (d = ['*'] ↔ c.length ≤ 64) := by
  obtain ⟨hlength, hsweeps⟩ :=
    List.forall₂_iff_get.mp (components_of_sweeps (delimits_id (by decide)) h)
  obtain ⟨hi, rfl⟩ := List.getElem?_eq_some_iff.mp hcs
  have hhex : ∀ k ∈ (components text)[i], isHex k = true := fun k hk =>
    isHex_iff.mpr (Or.inl (isDigit_iff.mp ((isNumber_iff.mp hc).2 k hk)))
  exact ⟨_, List.getElem?_eq_getElem (hlength ▸ hi),
    star_of_long hhex hlong (hsweeps i hi (hlength ▸ hi))⟩

/-! ### The last five sweeps -/

/-- The components of a path with the numbers written over that the first two sweeps come to. -/
def written (pid : UInt32) (cs : List (List Char)) : List (List Char) :=
  numbers "task".toList star (numbers "proc".toList (pidOrStar pid) cs)

/-- What a reduction makes of components. -/
structure Reduced (pid : UInt32) (cs ds : List (List Char)) : Prop where
  starring : Starring 28 (written pid cs) ds
  long : ∀ i, ∀ b ∈ names, ∀ c, (written pid cs)[i + 1]? = some b →
    (written pid cs)[i + 2]? = some c → isNumber c = true → 28 ≤ c.length →
      ∃ d, ds[i + 2]? = some d ∧ '*' ∈ d ∧ (d = ['*'] ↔ c.length ≤ 64)

lemma Reduced.length_eq {pid : UInt32} {cs ds : List (List Char)} (h : Reduced pid cs ds) :
    ds.length = cs.length := by
  rw [h.starring.length_eq, written, length_numbers, length_numbers]

/-- The first two sweeps, component by component. -/
lemma written_components {pid : UInt32} {path a b : List Char}
    (h : Pass (segment "proc") (pidOrStar pid) path a) (h' : Pass (segment "task") star a b) :
    written pid (components path) = components b := by
  have ha := components_of_pass (by decide) (fun d hd => slashless_pidOrStar pid hd) h
  have hb := components_of_pass (by decide) (fun d _ => by simp [star]) h'
  rw [hb, ha]
  rfl

theorem reduced_of_passes {sighting : Sighting} {path : List Char} (h : Passes sighting path out) :
    Reduced sighting.pid (components path) (components out) := by
  cases h with
  | @mk a b c d e f _ pid thread pod containerd id' device token =>
  have hwritten := written_components pid thread
  have hpods : ∀ limit, Starring limit (components b) (components d) := fun limit =>
    (starring_of_sysfsPass (sparing_cgroup limit (by decide)) pod).trans
      (starring_of_sysfsPass (sparing_cgroup limit (by decide)) containerd)
  have hid := starring_of_masks sparing_id (masks_of_sweeps_id id')
  have hlast : Starring 28 (components e) (components out) :=
    (starring_of_sysfsPass (sparing_device 28) device).trans
      (starring_of_masks (sparing_token 28) (token.masks []))
  refine ⟨hwritten ▸ ((hpods 28).trans hid).trans hlast, ?_⟩
  rw [hwritten]
  intro i b' hb' c' hb'' hc' hnumber hlong
  -- a long number is covered by the sweep over ids, and nothing is done to its star then
  have hd := (hpods (c'.length + 1)).number i b' hb' c' hb'' hc' hnumber (Nat.lt_succ_self _)
  obtain ⟨d', hd', hstar, hiff⟩ := getElem?_of_long_number id' hd hnumber hlong
  have hkeeps : KeepsStars (components e) (components out) := by
    refine KeepsStars.trans ?_ (keepsStars_of_masks plain_token (token.masks []))
    by_cases hon : OnSysfs sighting.filesystem
    · exact keepsStars_of_masks plain_device ((device.1 hon).masks [])
    · rw [device.2 hon]
      exact .refl _
  obtain ⟨d'', hd'', hstar', hiff'⟩ := hkeeps _ d' hd' hstar
  exact ⟨d'', hd'', hstar', hiff'.trans hiff⟩

end StablePath.Builtin
