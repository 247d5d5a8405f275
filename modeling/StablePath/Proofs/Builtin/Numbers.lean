import StablePath.Proofs.Builtin.Untouched

/-!
Numbers after a reduction.

A number behind the name of processes or threads is written over if the sweep comes to it. Of the
numbers that are left, those are covered that are long enough for a container id, and only up to 64
digits become a star by that.
-/

namespace StablePath.Builtin

variable {name other : List Char} {cs : List (List Char)} {i : Nat} {c : List Char}

lemma numbered_iff : numbered name cs i = true ↔ 2 ≤ i ∧ i + 1 < cs.length ∧
    cs[i - 1]? = some name ∧ ∃ c, cs[i]? = some c ∧ isNumber c = true := by
  simp [numbered, and_assoc, Option.any_eq_true]

lemma of_alternate {p : Nat → Bool} (h : alternate p i = true) : p i = true := by
  match i with
  | 0 | 1 => cases h
  | i + 2 => exact (Bool.and_eq_true_iff.mp h).1

lemma numbered_of_taken (h : taken name cs i = true) : numbered name cs i = true :=
  of_alternate h

lemma taken_of_ne {b : List Char} (hprev : cs[i - 1]? = some b) (hne : b ≠ name) :
    taken name cs i = false := by
  refine Bool.eq_false_iff.mpr fun htaken => ?_
  obtain ⟨-, -, hprev', -⟩ := numbered_iff.mp (numbered_of_taken htaken)
  exact hne (Option.some.inj (hprev.symm.trans hprev'))

/-- Numbers become marks, or they stay as they are. -/
def Marking (r : List Char → List Char) : Prop :=
  ∀ d, isNumber d = true → r d ∈ marks ∨ r d = d

section

variable {r : List Char → List Char} (hname : isNumber name = false)

include hname

/-- What a sweep over numbers leaves without writing. -/
lemma getElem?_numbers_of_not_taken (h : taken name cs i = false) :
    (numbers name r cs)[i]? = cs[i]? := by
  rw [getElem?_numbers hname, h]
  rfl

lemma getElem?_numbers_of_not_number (hcs : cs[i]? = some c) (hc : isNumber c = false) :
    (numbers name r cs)[i]? = some c := by
  rw [getElem?_numbers_of_not_taken hname, hcs]
  refine Bool.eq_false_iff.mpr fun htaken => ?_
  obtain ⟨-, -, -, d, hd, hnumber⟩ := numbered_iff.mp (numbered_of_taken htaken)
  obtain rfl : c = d := Option.some.inj (hcs.symm.trans hd)
  rw [hc] at hnumber
  cases hnumber

/-- What a sweep over numbers has not written was there before. -/
lemma getElem?_of_numbers (hr : Marking r) (hc : c ∉ marks) (h : (numbers name r cs)[i]? = some c) :
    cs[i]? = some c := by
  rw [getElem?_numbers hname] at h
  split_ifs at h with htaken
  · obtain ⟨-, -, -, d, hd, hnumber⟩ := numbered_iff.mp (numbered_of_taken htaken)
    rw [hd, Option.map_some, Option.some_inj] at h
    rcases hr d hnumber with hmark | heq
    · exact absurd (h ▸ hmark) hc
    · rw [hd, ← heq, h]
  · exact h

/-- A sweep over the numbers after one name does not change which numbers there are after
another. -/
lemma numbered_numbers (hr : Marking r) (hother : isNumber other = false) (hmark : other ∉ marks)
    (hne : other ≠ name) : numbered other (numbers name r cs) i = numbered other cs i := by
  rw [Bool.eq_iff_iff, numbered_iff, numbered_iff, length_numbers]
  refine and_congr_right fun hi => and_congr_right fun hlt => ?_
  have hfree : cs[i - 1]? = some other → (numbers name r cs)[i]? = cs[i]? :=
    fun hprev => getElem?_numbers_of_not_taken hname (taken_of_ne hprev hne)
  constructor
  · rintro ⟨hprev, c, hc, hnumber⟩
    have hprev' := getElem?_of_numbers hname hr hmark hprev
    exact ⟨hprev', c, hfree hprev' ▸ hc, hnumber⟩
  · rintro ⟨hprev, c, hc, hnumber⟩
    exact ⟨getElem?_numbers_of_not_number hname hprev hother, c, (hfree hprev).trans hc, hnumber⟩

end

/-! ### What the first two sweeps write -/

lemma pidText_mem_marks (pid : UInt32) (n : Nat) : Edit.pidText pid n ∈ marks := by
  rcases pidText_cases pid n with heq | heq
  · exact heq ▸ List.mem_cons_self
  · exact heq ▸ List.mem_cons_of_mem _ List.mem_cons_self

lemma marking_pidOrStar (pid : UInt32) : Marking (pidOrStar pid) := by
  intro d hd
  rw [pidOrStar_of_isNumber pid hd]
  split_ifs
  · exact Or.inl (pidText_mem_marks pid _)
  · exact Or.inr rfl

lemma marking_star : Marking star := fun _ _ => Or.inl (List.mem_cons_of_mem _ List.mem_cons_self)

lemma isNumber_proc : isNumber "proc".toList = false := by decide

lemma isNumber_task : isNumber "task".toList = false := by decide

variable {pid : UInt32}

lemma getElem?_of_written (hc : c ∉ marks) (h : (written pid cs)[i]? = some c) :
    cs[i]? = some c := by
  have hfirst := getElem?_of_numbers isNumber_task marking_star hc h
  exact getElem?_of_numbers isNumber_proc (marking_pidOrStar pid) hc hfirst

lemma getElem?_written_of_not_number (pid : UInt32) (hcs : cs[i]? = some c) (hc : isNumber c = false) :
    (written pid cs)[i]? = some c := by
  have hfirst := getElem?_numbers_of_not_number (r := pidOrStar pid) isNumber_proc hcs hc
  exact getElem?_numbers_of_not_number isNumber_task hfirst hc

/-- **What the first two sweeps write.** The second one comes to the numbers that it would come to
without the first one. -/
lemma getElem?_written (pid : UInt32) (cs : List (List Char)) (i : Nat) : (written pid cs)[i]? =
    if taken "proc".toList cs i then cs[i]?.map (pidOrStar pid)
    else if taken "task".toList cs i then cs[i]?.map star else cs[i]? := by
  have hsame : taken "task".toList (numbers "proc".toList (pidOrStar pid) cs) =
      taken "task".toList cs := by
    refine congrArg alternate (funext fun j => ?_)
    exact numbered_numbers isNumber_proc (marking_pidOrStar pid) isNumber_task (by decide) (by decide)
  rw [written, getElem?_numbers isNumber_task, hsame, getElem?_numbers isNumber_proc]
  by_cases hproc : taken "proc".toList cs i = true
  · obtain ⟨-, -, hprev, -⟩ := numbered_iff.mp (numbered_of_taken hproc)
    rw [if_pos hproc, if_pos hproc, taken_of_ne hprev (by decide)]
    rfl
  · rw [if_neg hproc, if_neg hproc]

lemma getElem?_written_proc (pid : UInt32) (hprev : cs[i - 1]? = some "proc".toList) :
    (written pid cs)[i]? =
      if taken "proc".toList cs i then cs[i]?.map (pidOrStar pid) else cs[i]? := by
  rw [getElem?_written, taken_of_ne hprev (by decide : "proc".toList ≠ "task".toList)]
  rfl

lemma getElem?_written_task (pid : UInt32) (hprev : cs[i - 1]? = some "task".toList) :
    (written pid cs)[i]? = if taken "task".toList cs i then cs[i]?.map star else cs[i]? := by
  rw [getElem?_written, taken_of_ne hprev (by decide : "task".toList ≠ "proc".toList)]
  rfl

/-! ### What a reduction leaves -/

lemma not_isNumber_of_mem_words {t : List Char} (h : t ∈ words) : isNumber t = false := by
  revert t
  decide

lemma star_not_mem_name {t : List Char} (h : t ∈ names) : '*' ∉ t := by
  revert t
  decide

lemma star_not_mem_number (hc : isNumber c = true) : '*' ∉ c :=
  fun hmem => absurd ((isNumber_iff.mp hc).2 _ hmem) (by decide)

lemma not_mem_marks_of_name {t : List Char} (h : t ∈ names) : t ∉ marks := by
  revert t
  decide

lemma not_mem_marks_of_number (hc : isNumber c = true) : c ∉ marks := by
  intro hmem
  rw [not_isNumber_of_mem_words (List.mem_append_right _ hmem)] at hc
  cases hc

lemma eq_star_of_mem_marks {t : List Char} (h : t ∈ marks) : '*' ∈ t ↔ t = ['*'] := by
  revert t
  decide

section

variable {ds : List (List Char)} (h : Reduced pid cs ds)

include h

/-- What a sweep over numbers writes stays. -/
lemma Reduced.getElem?_of_word {t : List Char} (ht : t ∈ words) (hi : 0 < i)
    (hw : (written pid cs)[i]? = some t) : ds[i]? = some t := by
  obtain ⟨j, rfl⟩ := Nat.exists_eq_succ_of_ne_zero (by omega : i ≠ 0)
  exact h.starring.word j t ht hw

/-- A number that is left becomes a mark only as a container id. -/
lemma Reduced.getElem?_eq_mark_iff {b t : List Char} (hb : b ∈ names) (hi : 2 ≤ i)
    (hprev : (written pid cs)[i - 1]? = some b) (hw : (written pid cs)[i]? = some c)
    (hc : isNumber c = true) (ht : t ∈ marks) :
    ds[i]? = some t ↔ t = ['*'] ∧ 28 ≤ c.length ∧ c.length ≤ 64 := by
  obtain ⟨j, rfl⟩ : ∃ j, i = j + 2 := ⟨i - 2, by omega⟩
  by_cases hshort : c.length < 28
  · rw [h.starring.number j b hb c hprev hw hc hshort, Option.some_inj]
    refine iff_of_false ?_ (by omega)
    rintro rfl
    exact not_mem_marks_of_number hc ht
  · obtain ⟨d, hd, hstar, hiff⟩ := h.long j b hb c hprev hw hc (by omega)
    rw [hd, Option.some_inj]
    constructor
    · rintro rfl
      have heq := (eq_star_of_mem_marks ht).mp hstar
      exact ⟨heq, by omega, hiff.mp heq⟩
    · rintro ⟨rfl, -, hle⟩
      exact hiff.mpr hle

lemma Reduced.getElem?_pid_iff (hi : 2 ≤ i) (hprev : cs[i - 1]? = some "proc".toList)
    (hc : cs[i]? = some c) (hnumber : isNumber c = true) (hvalue : decimal c < 2 ^ 32) :
    ds[i]? = some (Edit.pidText pid (decimal c)) ↔ taken "proc".toList cs i = true ∨
      decimal c ≠ pid.toNat ∧ 28 ≤ c.length ∧ c.length ≤ 64 := by
  have hmark := pidText_mem_marks pid (decimal c)
  have hwritten := getElem?_written_proc pid hprev
  rw [hc, Option.map_some, pidOrStar_of_isNumber pid hnumber, if_pos hvalue] at hwritten
  by_cases htaken : taken "proc".toList cs i = true
  · rw [if_pos htaken] at hwritten
    have hout := h.getElem?_of_word (List.mem_append_right _ hmark) (by omega) hwritten
    exact iff_of_true hout (Or.inl htaken)
  · rw [if_neg htaken] at hwritten
    have hprev' := getElem?_written_of_not_number pid hprev isNumber_proc
    have hstar : Edit.pidText pid (decimal c) = ['*'] ↔ decimal c ≠ pid.toNat := by
      unfold Edit.pidText
      split_ifs with heq
      · exact iff_of_false (by decide) (not_not_intro heq)
      · exact iff_of_true rfl heq
    rw [h.getElem?_eq_mark_iff List.mem_cons_self hi hprev' hwritten hnumber hmark, hstar]
    exact (or_iff_right htaken).symm

lemma Reduced.getElem?_thread_iff (hi : 2 ≤ i) (hprev : cs[i - 1]? = some "task".toList)
    (hc : cs[i]? = some c) (hnumber : isNumber c = true) :
    ds[i]? = some ['*'] ↔ taken "task".toList cs i = true ∨ 28 ≤ c.length ∧ c.length ≤ 64 := by
  have hmark : ['*'] ∈ marks := List.mem_cons_of_mem _ List.mem_cons_self
  have hwritten := getElem?_written_task pid hprev
  rw [hc, Option.map_some] at hwritten
  by_cases htaken : taken "task".toList cs i = true
  · rw [if_pos htaken] at hwritten
    have hout := h.getElem?_of_word (List.mem_append_right _ hmark) (by omega) hwritten
    exact iff_of_true hout (Or.inl htaken)
  · rw [if_neg htaken] at hwritten
    have hprev' := getElem?_written_of_not_number pid hprev isNumber_task
    rw [h.getElem?_eq_mark_iff (List.mem_cons_of_mem _ List.mem_cons_self) hi hprev' hwritten
      hnumber hmark, eq_self_iff_true, true_and]
    exact (or_iff_right htaken).symm

end

/-- **What a reduction makes of the numbers of processes and threads.** Behind `proc` a number of 32
bits becomes `self` or a star, and behind `task` every number becomes a star, exactly if the sweep
over numbers comes to it or it is a container id by its length. The sweep passes over a number
between slashes if it has come to the one two components before it; see `taken`. -/
theorem reduce?_number_iff (sighting : Sighting) (path : List Char) :
    ∃ rules reduction, ruleset = .ok rules ∧ rules.reduce? sighting path = some reduction ∧
      (components reduction.path).length = (components path).length ∧
      ∀ i c, 2 ≤ i → (components path)[i]? = some c → c ≠ [] → (∀ d ∈ c, d.isDigit = true) →
        ((components path)[i - 1]? = some "proc".toList → decimal c < 2 ^ 32 →
          ((components reduction.path)[i]? =
              some (if decimal c = sighting.pid.toNat then "self".toList else "*".toList) ↔
            taken "proc".toList (components path) i = true ∨
              decimal c ≠ sighting.pid.toNat ∧ 28 ≤ c.length ∧ c.length ≤ 64)) ∧
        ((components path)[i - 1]? = some "task".toList →
          ((components reduction.path)[i]? = some "*".toList ↔
            taken "task".toList (components path) i = true ∨
              28 ≤ c.length ∧ c.length ≤ 64)) := by
  obtain ⟨rules, hrules, hreduce⟩ := exists_passes
  obtain ⟨reduction, hreduction, hpasses⟩ := hreduce sighting path
  have hreduced := reduced_of_passes hpasses
  refine ⟨rules, reduction, hrules, hreduction, hreduced.length_eq, fun i c hi hc hne hdigits => ?_⟩
  have hnumber : isNumber c = true := isNumber_iff.mpr ⟨hne, hdigits⟩
  constructor
  · intro hprev hvalue
    exact hreduced.getElem?_pid_iff hi hprev hc hnumber hvalue
  · intro hprev
    exact hreduced.getElem?_thread_iff hi hprev hc hnumber

/-- Of two processes that follow each other directly the second one keeps its number. -/
theorem reduce?_keeps_second_pid : ∃ rules, ruleset = .ok rules ∧
    ∃ reduction, rules.reduce? ⟨none, 7⟩ "/proc/1/proc/2/x".toList = some reduction ∧
      (components "/proc/1/proc/2/x".toList)[3]? = some "proc".toList ∧
      (components "/proc/1/proc/2/x".toList)[4]? = some "2".toList ∧
      (components reduction.path)[4]? = some "2".toList := by
  obtain ⟨rules, hrules, hreduce⟩ := exists_passes
  obtain ⟨reduction, hreduction, hpasses⟩ := hreduce ⟨none, 7⟩ "/proc/1/proc/2/x".toList
  have hreduced := reduced_of_passes hpasses
  have hprev : (components "/proc/1/proc/2/x".toList)[3]? = some "proc".toList := by decide +kernel
  have hc : (components "/proc/1/proc/2/x".toList)[4]? = some "2".toList := by decide +kernel
  have hpassed : taken "proc".toList (components "/proc/1/proc/2/x".toList) 4 = false := by
    decide +kernel
  have hprev' := getElem?_written_of_not_number 7 hprev isNumber_proc
  have hc' := getElem?_written_proc (i := 4) 7 hprev
  rw [hpassed, if_neg Bool.false_ne_true, hc] at hc'
  exact ⟨rules, hrules, reduction, hreduction, hprev, hc,
    hreduced.starring.number 2 _ List.mem_cons_self _ hprev' hc' (by decide) (by decide)⟩

end StablePath.Builtin
