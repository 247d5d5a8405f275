import StablePath.Proofs.Builtin.Numbers

/-!
Reductions of reductions.

In the outcome of a reduction the last five rules find nothing to do. The sweeps over numbers may
find something: of names and numbers that follow each other directly they pass over every other
number, and when they come again they take from what they passed over.
-/

namespace StablePath.Builtin

open Pattern

variable {text out : List Char}

/-! ### The last five rules -/

lemma eq_of_starred {lead : String} (h : Starred lead text)
    (hpass : Pass (cgroup lead) star text out) : out = text := by
  refine Sweeps.eq_self (fun hit hlongest hsuffix => ?_) hpass
  obtain ⟨⟨hlead, -, hspan, htail⟩, -⟩ := hlongest
  have hslash : '/' ∉ hit.span := fun hmem => by simpa using hspan _ hmem
  have hin : lead.toList ++ hit.span ++ hit.tail <:+: text := by
    refine List.IsInfix.trans ?_ hsuffix.isInfix
    rw [← List.mem_singleton.mp hlead]
    exact (List.prefix_append hit.taken hit.rest).isInfix
  rw [h hit.span hit.tail htail hslash hin]
  rfl

lemma eq_of_no_core (h : ∀ w, IsCore w → ¬ w <:+: text)
    (hsweep : Sweeps IsId NoId star text out) : out = text := by
  refine Sweeps.eq_self (fun hit found hsuffix => ?_) hsweep
  obtain ⟨w, hcore, hin⟩ := found.isContainerId.exists_core hsuffix
  exact absurd hin (h w hcore)

lemma eq_of_not_followed {leads : List (List Char)} {p : Char → Bool}
    (h : ∀ w, Followed leads p w → ¬ w <:+: text)
    (hpass : Pass (Around leads 1 p [[]]) star text out) : out = text := by
  refine Sweeps.eq_self (fun hit hlongest hsuffix => ?_) hpass
  obtain ⟨⟨hlead, henough, hspan, -⟩, -⟩ := hlongest
  obtain ⟨c, span, heq⟩ := List.exists_cons_of_length_pos henough
  have hc : p c = true := hspan c (heq ▸ List.mem_cons_self)
  refine absurd (List.IsInfix.trans ?_ hsuffix.isInfix) (h _ ⟨hit.lead, hlead, c, hc, rfl⟩)
  exact ⟨[], span ++ hit.tail ++ hit.rest, by simp [Hit.text, Hit.taken, heq]⟩

lemma eq_of_sysfsPass {filesystem : Option String} {shape : Hit → Prop}
    (h : SysfsPass filesystem shape text out)
    (heq : OnSysfs filesystem → Pass shape star text out → out = text) : out = text := by
  by_cases hon : OnSysfs filesystem
  · exact heq hon (h.1 hon)
  · exact h.2 hon

/-- **A clean path stays** if no number in it is written over. -/
theorem eq_of_clean {sighting : Sighting} (hclean : Clean sighting.filesystem text)
    (hwritten : written sighting.pid (components text) = components text)
    (h : Passes sighting text out) : out = text := by
  cases h with
  | @mk a b c d e f _ pid thread pod containerd id' device token =>
  obtain rfl : b = text := components_injective ((written_components pid thread).symm.trans hwritten)
  obtain rfl := eq_of_sysfsPass pod fun hon => eq_of_starred (hclean.pods hon)
  obtain rfl := eq_of_sysfsPass containerd fun hon => eq_of_starred (hclean.containers hon)
  obtain rfl := eq_of_no_core hclean.ids id'
  obtain rfl := eq_of_sysfsPass device fun hon => eq_of_not_followed (hclean.devices hon)
  exact eq_of_not_followed hclean.tokens token

/-! ### The sweeps over numbers -/

/-- There is a number after a name that a reduction leaves as it is: it has too few digits for a
container id, and the sweep passes over it or comes to it and does not write. -/
def remains (name : List Char) (writes : List Char → Bool) (cs : List (List Char)) (i : Nat) : Bool :=
  numbered name cs i && (cs[i]?).any fun c =>
    decide (c.length < 28) && !(taken name cs i && writes c)

/-- The numbers that a sweep over the outcome comes to. -/
def retaken (name : List Char) (writes : List Char → Bool) (cs : List (List Char)) (i : Nat) : Bool :=
  alternate (remains name writes cs) i

/-- Whether a number fits in 32 bits. -/
def fits (c : List Char) : Bool := decide (decimal c < 2 ^ 32)

variable {name : List Char} {writes : List Char → Bool} {r : List Char → List Char} {pid : UInt32}
  {cs ds : List (List Char)} {i : Nat}

lemma remains_iff : remains name writes cs i = true ↔ numbered name cs i = true ∧
    ∃ c, cs[i]? = some c ∧ c.length < 28 ∧ (taken name cs i = true → writes c = false) := by
  simp [remains, Option.any_eq_true, or_iff_not_imp_left]

lemma Reduced.getElem?_of_number (h : Reduced pid cs ds) {c : List Char} (hi : 0 < i)
    (hd : ds[i]? = some c) (hc : isNumber c = true) : cs[i]? = some c := by
  obtain ⟨j, rfl⟩ := Nat.exists_eq_succ_of_ne_zero (by omega : i ≠ 0)
  have hwritten := h.starring.old j c hd (star_not_mem_number hc)
  exact getElem?_of_written (not_mem_marks_of_number hc) hwritten

/-- **What a sweep finds in the outcome of a reduction**: the numbers that have remained. -/
lemma Reduced.numbered_eq (h : Reduced pid cs ds) (hname : name ∈ names)
    (hr : ∀ c, isNumber c = true → (writes c = false ↔ r c = c))
    (hwritten : cs[i - 1]? = some name →
      (written pid cs)[i]? = if taken name cs i then cs[i]?.map r else cs[i]?) :
    numbered name ds i = remains name writes cs i := by
  have hnot := not_isNumber_of_mem_words (mem_words_of_mem_names hname)
  have hlen := h.length_eq
  rw [Bool.eq_iff_iff, remains_iff]
  constructor
  · -- what is a number in the outcome has neither been covered nor written over
    intro hnumbered
    obtain ⟨hi, hlt, hprev, c, hc, hnumber⟩ := numbered_iff.mp hnumbered
    obtain ⟨j, rfl⟩ : ∃ j, i = j + 2 := ⟨i - 2, by omega⟩
    have hprev' := h.starring.old j name hprev (star_not_mem_name hname)
    have hprev'' := getElem?_of_written (not_mem_marks_of_name hname) hprev'
    have hc' := h.starring.old (j + 1) c hc (star_not_mem_number hnumber)
    have hc'' := h.getElem?_of_number (by omega) hc hnumber
    refine ⟨numbered_iff.mpr ⟨hi, hlen ▸ hlt, hprev'', c, hc'', hnumber⟩, c, hc'', ?_, ?_⟩
    · by_contra hlong
      obtain ⟨d, hd, hmem, -⟩ := h.long j name hname c hprev' hc' hnumber (by omega)
      obtain rfl : c = d := Option.some.inj (hc.symm.trans hd)
      exact star_not_mem_number hnumber hmem
    · intro htaken
      have heq := hwritten hprev''
      rw [if_pos htaken, hc'', hc', Option.map_some, Option.some_inj] at heq
      exact (hr c hnumber).mpr heq.symm
  · rintro ⟨hnumbered, c, hc, hshort, hfree⟩
    obtain ⟨hi, hlt, hprev, c', hc', hnumber⟩ := numbered_iff.mp hnumbered
    obtain rfl : c = c' := Option.some.inj (hc.symm.trans hc')
    obtain ⟨j, rfl⟩ : ∃ j, i = j + 2 := ⟨i - 2, by omega⟩
    have hprev' : (written pid cs)[j + 1]? = some name := getElem?_written_of_not_number pid hprev hnot
    have hkept : (written pid cs)[j + 2]? = some c := by
      rw [hwritten hprev, hc]
      split_ifs with htaken
      · rw [Option.map_some, (hr c hnumber).mp (hfree htaken)]
      · rfl
    have hprev'' := h.starring.word j name (mem_words_of_mem_names hname) hprev'
    have hc'' := h.starring.number j name hname c hprev' hkept hnumber hshort
    exact numbered_iff.mpr ⟨hi, hlen.symm ▸ hlt, hprev'', c, hc'', hnumber⟩

lemma Reduced.taken_proc (h : Reduced pid cs ds) :
    taken "proc".toList ds i = retaken "proc".toList fits cs i := by
  refine congrFun (congrArg alternate (funext fun j => ?_)) i
  refine h.numbered_eq List.mem_cons_self (fun c hc => ?_) (getElem?_written_proc pid)
  rw [pidOrStar_of_isNumber pid hc, fits, decide_eq_false_iff_not]
  split_ifs with hlt
  · refine iff_of_false (not_not_intro hlt) fun heq => ?_
    exact not_mem_marks_of_number hc (heq ▸ pidText_mem_marks pid _)
  · exact iff_of_true hlt rfl

lemma Reduced.taken_task (h : Reduced pid cs ds) :
    taken "task".toList ds i = retaken "task".toList (fun _ => true) cs i := by
  refine congrFun (congrArg alternate (funext fun j => ?_)) i
  refine h.numbered_eq (List.mem_cons_of_mem _ List.mem_cons_self) (fun c hc => ?_)
    (getElem?_written_task pid)
  refine iff_of_false (by decide) fun heq => ?_
  exact not_mem_marks_of_number hc (heq ▸ List.mem_cons_of_mem _ List.mem_cons_self)

lemma written_eq_self
    (hproc : ∀ i c, ds[i]? = some c → taken "proc".toList ds i = true → 2 ^ 32 ≤ decimal c)
    (htask : ∀ i, taken "task".toList ds i = false) : written pid ds = ds := by
  have hfirst : numbers "proc".toList (pidOrStar pid) ds = ds := by
    refine List.ext_getElem? fun i => ?_
    rw [getElem?_numbers isNumber_proc]
    split_ifs with htaken
    · obtain ⟨-, -, -, c, hc, hnumber⟩ := numbered_iff.mp (numbered_of_taken htaken)
      have hle := hproc i c hc htaken
      rw [hc, Option.map_some, pidOrStar_of_isNumber pid hnumber, if_neg (by omega)]
    · rfl
  unfold written
  rw [hfirst]
  exact List.ext_getElem? fun i => getElem?_numbers_of_not_taken isNumber_task (htask i)

/-- A reduction of a reduction changes something exactly if it comes to a number that it writes
over. -/
theorem eq_iff_of_passes {sighting : Sighting} {path : List Char}
    (h : Passes sighting path text) (h' : Passes sighting text out) :
    out = text ↔
      (∀ i c, (components path)[i]? = some c →
        retaken "proc".toList fits (components path) i = true → 2 ^ 32 ≤ decimal c) ∧
      ∀ i, retaken "task".toList (fun _ => true) (components path) i = false := by
  have hreduced := reduced_of_passes h
  have hreduced' := reduced_of_passes h'
  constructor
  · -- a number that the second sweep writes over would be a mark in the outcome
    rintro rfl
    refine ⟨fun i c hc hretaken => ?_, fun i => ?_⟩
    · rw [← hreduced.taken_proc] at hretaken
      obtain ⟨hi, -, hprev, d, hd, hnumber⟩ := numbered_iff.mp (numbered_of_taken hretaken)
      obtain rfl : c = d :=
        Option.some.inj (hc.symm.trans (hreduced.getElem?_of_number (by omega) hd hnumber))
      by_contra hlt
      have hmark := (hreduced'.getElem?_pid_iff hi hprev hd hnumber (by omega)).mpr (Or.inl hretaken)
      have heq := Option.some.inj (hd.symm.trans hmark)
      exact not_mem_marks_of_number hnumber (heq ▸ pidText_mem_marks _ _)
    · rw [← hreduced.taken_task]
      refine Bool.eq_false_iff.mpr fun htaken => ?_
      obtain ⟨hi, -, hprev, d, hd, hnumber⟩ := numbered_iff.mp (numbered_of_taken htaken)
      have hmark := (hreduced'.getElem?_thread_iff hi hprev hd hnumber).mpr (Or.inl htaken)
      obtain rfl := Option.some.inj (hd.symm.trans hmark)
      cases hnumber
  · rintro ⟨hproc, htask⟩
    refine eq_of_clean (clean_of_passes h) (written_eq_self (fun i c hc htaken => ?_) fun i => ?_) h'
    · obtain ⟨hi, -, -, d, hd, hnumber⟩ := numbered_iff.mp (numbered_of_taken htaken)
      obtain rfl : c = d := Option.some.inj (hc.symm.trans hd)
      rw [hreduced.taken_proc] at htaken
      exact hproc i c (hreduced.getElem?_of_number (by omega) hc hnumber) htaken
    · rw [hreduced.taken_task]
      exact htask i

lemma alternate_eq_false_iff {p : Nat → Bool} (h₀ : p 0 = false) (h₁ : p 1 = false) :
    (∀ i, alternate p i = false) ↔ ∀ i, p i = false := by
  constructor
  · intro h i
    match i with
    | 0 => exact h₀
    | 1 => exact h₁
    | i + 2 =>
      have hi := h (i + 2)
      rw [alternate, h i] at hi
      simpa using hi
  · intro h i
    refine Bool.eq_false_iff.mpr fun halternate => ?_
    have hi := of_alternate halternate
    rw [h i] at hi
    cases hi

/-- **When a second reduction changes nothing**: exactly if no number of a thread has remained, and
of the process numbers that have remained those that the sweep comes to now do not fit in 32
bits. -/
theorem reduce?_again_iff (sighting : Sighting) (path : List Char) :
    ∃ rules once twice, ruleset = .ok rules ∧ rules.reduce? sighting path = some once ∧
      rules.reduce? sighting once.path = some twice ∧
      (twice.path = once.path ↔
        (∀ i c, (components path)[i]? = some c →
          retaken "proc".toList fits (components path) i = true → 2 ^ 32 ≤ decimal c) ∧
        ∀ i, remains "task".toList (fun _ => true) (components path) i = false) := by
  obtain ⟨rules, hrules, hreduce⟩ := exists_passes
  obtain ⟨once, honce, h⟩ := hreduce sighting path
  obtain ⟨twice, htwice, h'⟩ := hreduce sighting once.path
  refine ⟨rules, once, twice, hrules, honce, htwice, (eq_iff_of_passes h h').trans ?_⟩
  exact and_congr_right' (alternate_eq_false_iff rfl rfl)

/-- A second reduction takes the process number that the first one has passed over. -/
theorem reduce?_again_ne : ∃ rules, ruleset = .ok rules ∧
    ∃ once twice, rules.reduce? ⟨none, 7⟩ "/proc/1/proc/2/x".toList = some once ∧
      rules.reduce? ⟨none, 7⟩ once.path = some twice ∧ twice.path ≠ once.path := by
  obtain ⟨rules, hrules, hreduce⟩ := exists_passes
  obtain ⟨once, honce, h⟩ := hreduce ⟨none, 7⟩ "/proc/1/proc/2/x".toList
  obtain ⟨twice, htwice, h'⟩ := hreduce ⟨none, 7⟩ once.path
  refine ⟨rules, hrules, once, twice, honce, htwice, fun heq => ?_⟩
  have hc : (components "/proc/1/proc/2/x".toList)[4]? = some "2".toList := by decide +kernel
  have hretaken : retaken "proc".toList fits (components "/proc/1/proc/2/x".toList) 4 = true := by
    decide +kernel
  have hle := ((eq_iff_of_passes h h').mp heq).1 4 _ hc hretaken
  revert hle
  decide +kernel

end StablePath.Builtin
