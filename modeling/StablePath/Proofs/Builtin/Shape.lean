import StablePath.Proofs.Builtin.Numbers

/-!
The shape of a reduced path.

Slashes are neither written nor covered, so a reduction works inside components. Several sweeps may
come to one component; the star that a later one puts over the star of an earlier one covers what
both have covered.
-/

namespace StablePath

open Pattern Builtin

/-- Some parts of a text, which may be empty and lie one behind the other, are replaced by a star
each. Everything else is kept. -/
def Covers (text out : List Char) : Prop :=
  ∃ parts : List (List Char × List Char), ∃ rest, parts ≠ [] ∧
    text = parts.flatMap (fun part => part.1 ++ part.2) ++ rest ∧
    out = parts.flatMap (fun part => part.1 ++ ['*']) ++ rest

lemma covers_all (text : List Char) : Covers text ['*'] :=
  ⟨[([], text)], [], by simp, by simp, by simp⟩

/-- Stars cover parts of a text that lie inside components. -/
abbrev Stars : List Char → List Char → List Char → Prop := Masks fun _ old => '/' ∉ old

namespace Masks

variable {W : List Char → List Char → Prop} {before text mid out : List Char}

lemma refl (before text : List Char) : Masks W before text text := by
  simpa using kept text (nil (before ++ text))

lemma stars (hW : ∀ before old, W before old → '/' ∉ old) (h : Masks W before text out)
    (before' : List Char) : Stars before' text out := by
  induction h generalizing before' with
  | nil => exact .nil before'
  | keep c _ ih => exact .keep c (ih _)
  | mask old hold _ ih => exact .mask old (hW _ old hold) (ih _)

/-- A star over some stars covers what they cover. -/
lemma stars_trans (h : Stars before text mid) (h' : Stars before mid out) :
    Stars before text out := by
  induction h' generalizing text with
  | nil => exact h
  | keep c later ih =>
    cases h with
    | keep _ h => exact .keep c (ih h)
    | mask old hold h => exact .mask old hold (ih h)
  | @mask before mid out old hold later ih =>
    -- the part that the later star covers goes back to a part of the text
    obtain ⟨part, text', rfl, hpart, hrest⟩ := h.split
    refine .mask part (hpart.not_mem (fun _ _ => id) hold) (ih ?_)
    exact hrest.stars (fun _ _ => id) _

lemma eq_or_covers (h : Masks W before text out) : out = text ∨ Covers text out := by
  have hparts : ∃ parts : List (List Char × List Char), ∃ rest,
      text = parts.flatMap (fun part => part.1 ++ part.2) ++ rest ∧
      out = parts.flatMap (fun part => part.1 ++ ['*']) ++ rest := by
    induction h with
    | nil => exact ⟨[], [], rfl, rfl⟩
    | keep c _ ih =>
      obtain ⟨parts, rest, rfl, rfl⟩ := ih
      cases parts with
      | nil => exact ⟨[], c :: rest, rfl, rfl⟩
      | cons part parts => exact ⟨(c :: part.1, part.2) :: parts, rest, by simp, by simp⟩
    | mask old _ _ ih =>
      obtain ⟨parts, rest, rfl, rfl⟩ := ih
      exact ⟨([], old) :: parts, rest, by simp, by simp⟩
  obtain ⟨parts, rest, htext, hout⟩ := hparts
  by_cases hnil : parts = []
  · subst hnil
    exact Or.inl (hout.trans htext.symm)
  · exact Or.inr ⟨parts, rest, hnil, htext, hout⟩

/-- A component of the outcome comes from the component of the text at the same index. -/
lemma stars_component (h : Stars before text out) {i : Nat} {d : List Char}
    (hd : (components out)[i]? = some d) :
    ∃ front c, (components text)[i]? = some c ∧ Stars front c d := by
  cases i with
  | zero =>
    obtain ⟨d', ds, hds⟩ := exists_cons_components out
    obtain ⟨c, cs, hcs, hstars⟩ := h.head_components (fun _ _ => id) hds
    rw [hds] at hd
    obtain rfl : d' = d := Option.some.inj hd
    exact ⟨before, c, by rw [hcs]; rfl, hstars⟩
  | succ i =>
    obtain ⟨b, hb⟩ := exists_getElem?_of_succ hd
    obtain ⟨front, c, hc, hstars⟩ := h.exists_component (fun _ _ => id) hb hd
    exact ⟨_, c, hc, hstars⟩

end Masks

namespace Builtin

variable {text out : List Char}

lemma stars_of_pass {leads tails : List (List Char)} {lo : Nat} {p : Char → Bool}
    (hp : p '/' = false) (h : Pass (Around leads lo p tails) star text out) :
    Stars [] text out := by
  refine (h.masks []).stars (fun before old hold hmem => ?_) []
  rw [hold.span _ hmem] at hp
  cases hp

lemma stars_of_sysfsPass {leads tails : List (List Char)} {lo : Nat} {p : Char → Bool}
    (hp : p '/' = false) {filesystem : Option String}
    (h : SysfsPass filesystem (Around leads lo p tails) text out) : Stars [] text out := by
  by_cases hon : OnSysfs filesystem
  · exact stars_of_pass hp (h.1 hon)
  · rw [h.2 hon]
    exact .refl _ _

/-- The entry of a process: a number with its value, behind the name of processes. -/
structure EntryOf (pid : UInt32) (cs : List (List Char)) (i : Nat) : Prop where
  inside : 2 ≤ i ∧ i + 1 < cs.length
  behind : cs[i - 1]? = some "proc".toList
  number : ∃ c, cs[i]? = some c ∧ c ≠ [] ∧ (∀ k ∈ c, k.isDigit = true) ∧ decimal c = pid.toNat

lemma written_cases (pid : UInt32) {cs : List (List Char)} {i : Nat} {c : List Char}
    (hc : cs[i]? = some c) :
    (written pid cs)[i]? = some c ∨
      2 ≤ i ∧ ((written pid cs)[i]? = some "self".toList ∧ EntryOf pid cs i ∨
        (written pid cs)[i]? = some ['*']) := by
  -- the sweep over threads comes second, so what it writes stays
  by_cases htask : taken "task".toList (numbers "proc".toList (pidOrStar pid) cs) i = true
  · obtain ⟨hi, -, -, d, hd, -⟩ := numbered_iff.mp (numbered_of_taken htask)
    refine Or.inr ⟨hi, Or.inr ?_⟩
    rw [written, getElem?_numbers isNumber_task, if_pos htask, hd]
    rfl
  · have hwritten : (written pid cs)[i]? = (numbers "proc".toList (pidOrStar pid) cs)[i]? := by
      rw [written, getElem?_numbers isNumber_task, if_neg htask]
    rw [hwritten, getElem?_numbers isNumber_proc, hc]
    by_cases hproc : taken "proc".toList cs i = true
    · obtain ⟨hi, hlast, hprev, d, hd, hnumber⟩ := numbered_iff.mp (numbered_of_taken hproc)
      obtain rfl : c = d := Option.some.inj (hc.symm.trans hd)
      rw [if_pos hproc, Option.map_some, pidOrStar_of_isNumber pid hnumber, Edit.pidText]
      split_ifs with hlt heq
      · obtain ⟨hne, hdigits⟩ := isNumber_iff.mp hnumber
        exact Or.inr ⟨hi, Or.inl ⟨rfl, ⟨hi, hlast⟩, hprev, c, hc, hne, hdigits, heq⟩⟩
      · exact Or.inr ⟨hi, Or.inr rfl⟩
      · exact Or.inl rfl
    · rw [if_neg hproc]
      exact Or.inl rfl

lemma exists_stars_of_passes {sighting : Sighting} {path : List Char}
    (h : Passes sighting path out) :
    ∃ mid, components mid = written sighting.pid (components path) ∧ Stars [] mid out := by
  cases h with
  | @mk a b c d e f _ pid thread pod containerd id' device token =>
  have hid : Stars [] d e := (masks_of_sweeps_id id').stars sparing_id.slash []
  have hcgroups : Stars [] b d := Masks.stars_trans (stars_of_sysfsPass (by decide) pod)
    (stars_of_sysfsPass (by decide) containerd)
  have hlast : Stars [] e out := Masks.stars_trans (stars_of_sysfsPass (by decide) device)
    (stars_of_pass (by decide) token)
  exact ⟨b, (written_components pid thread).symm, (hcgroups.stars_trans hid).stars_trans hlast⟩

lemma component_of_passes {sighting : Sighting} {path : List Char}
    (h : Passes sighting path out) {i : Nat} {c : List Char}
    (hc : (components path)[i]? = some c) :
    ∃ d, (components out)[i]? = some d ∧
      (d = c ∨ d = "self".toList ∧ EntryOf sighting.pid (components path) i ∨ Covers c d) := by
  have hreduced := reduced_of_passes h
  obtain ⟨mid, hmid, hstars⟩ := exists_stars_of_passes h
  obtain ⟨d, hd⟩ := exists_getElem?_of_length_eq hreduced.length_eq hc
  refine ⟨d, hd, ?_⟩
  rcases written_cases sighting.pid hc with hkept | ⟨hi, ⟨hself, hentry⟩ | hstar⟩
  · obtain ⟨front, c', hc', hcovers⟩ := hstars.stars_component hd
    rw [hmid, hkept] at hc'
    obtain rfl : c = c' := Option.some.inj hc'
    exact hcovers.eq_or_covers.imp id Or.inr
  · have hout := hreduced.getElem?_of_word (by decide) (by omega) hself
    exact Or.inr (Or.inl ⟨Option.some.inj (hd.symm.trans hout), hentry⟩)
  · have hout := hreduced.getElem?_of_word (by decide) (by omega) hstar
    rw [Option.some.inj (hd.symm.trans hout)]
    exact Or.inr (Or.inr (covers_all c))

/-- **A reduction keeps the shape of a path.** There are as many components as before, and each one
is what it was, or `self` in place of the number of the observing process behind `proc`, or what it
was with stars over some parts of it. -/
theorem reduce?_keeps_shape : ∃ rules, ruleset = .ok rules ∧ ∀ sighting path,
    ∃ reduction, rules.reduce? sighting path = some reduction ∧
      (components reduction.path).length = (components path).length ∧
      ∀ i c, (components path)[i]? = some c → ∃ d, (components reduction.path)[i]? = some d ∧
        (d = c ∨
          d = "self".toList ∧ EntryOf sighting.pid (components path) i ∨
          Covers c d) := by
  obtain ⟨rules, hrules, hreduce⟩ := exists_passes
  refine ⟨rules, hrules, fun sighting path => ?_⟩
  obtain ⟨reduction, hreduction, hpasses⟩ := hreduce sighting path
  refine ⟨reduction, hreduction, (reduced_of_passes hpasses).length_eq, fun i c hc => ?_⟩
  exact component_of_passes hpasses hc

end Builtin

end StablePath
