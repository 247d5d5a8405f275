import StablePath.Proofs.Builtin.Numbers

/-!
Paths that differ in one component.

What stands in one component decides whether it is a number, and nothing else about the numbers of a
path. So the sweeps over numbers do the same to all other components, unless the number that the
sweep comes to behind this component depends on it.
-/

namespace StablePath.Builtin

/-- Two lists of components that differ at most at one index. -/
structure OffAt (k : Nat) (cs ds : List (List Char)) : Prop where
  length_eq : cs.length = ds.length
  same : ∀ j, j ≠ k → cs[j]? = ds[j]?

variable {k : Nat} {cs ds : List (List Char)} {name : List Char}

lemma OffAt.symm (h : OffAt k cs ds) : OffAt k ds cs :=
  ⟨h.length_eq.symm, fun j hj => (h.same j hj).symm⟩

lemma offAt_append_cons (A B : List (List Char)) (c d : List Char) :
    OffAt A.length (A ++ c :: B) (A ++ d :: B) where
  length_eq := by simp
  same j hj := by
    rcases Nat.lt_or_gt_of_ne hj with hlt | hgt
    · rw [List.getElem?_append_left hlt, List.getElem?_append_left hlt]
    · rw [List.getElem?_append_right (Nat.le_of_lt hgt),
        List.getElem?_append_right (Nat.le_of_lt hgt)]
      obtain ⟨m, hm⟩ : ∃ m, j - A.length = m + 1 := ⟨j - A.length - 1, by omega⟩
      rw [hm]
      rfl

/-! ### Which numbers are taken -/

lemma alternate_eq {p q : Nat → Bool} (h : ∀ j, j ≠ k → p j = q j) (hnext : p (k + 2) = false)
    {j : Nat} (hj : j ≠ k) : alternate p j = alternate q j := by
  induction j using Nat.twoStepInduction with
  | zero => rfl
  | one => rfl
  | more j ih _ =>
    have hsame := h (j + 2) hj
    rw [alternate, alternate, ← hsame]
    by_cases hjk : j = k
    · rw [hjk, hnext, Bool.false_and, Bool.false_and]
    · rw [ih hjk]

/-- The number that the sweep comes to behind a component does not depend on it: the component is a
number in both lists or in none, or no number follows it with its name. -/
def Settled (name : List Char) (k : Nat) (cs ds : List (List Char)) : Prop :=
  numbered name cs k = numbered name ds k ∨ numbered name cs (k + 2) = false

section

variable (h : OffAt k cs ds) (hcs : cs[k]? ≠ some name) (hds : ds[k]? ≠ some name)

include h hcs hds

lemma OffAt.numbered_eq {j : Nat} (hj : j ≠ k) : numbered name cs j = numbered name ds j := by
  have hprev : cs[j - 1]? = some name ↔ ds[j - 1]? = some name := by
    by_cases hjk : j - 1 = k
    · exact iff_of_false (hjk ▸ hcs) (hjk ▸ hds)
    · rw [h.same (j - 1) hjk]
  rw [Bool.eq_iff_iff, numbered_iff, numbered_iff, h.length_eq, h.same j hj, hprev]

lemma OffAt.taken_eq (hsettled : Settled name k cs ds) {j : Nat} (hj : j ≠ k) :
    taken name cs j = taken name ds j := by
  rcases hsettled with hsame | hnext
  · refine congrArg (alternate · j) (funext fun i => ?_)
    by_cases hi : i = k
    · rw [hi, hsame]
    · exact h.numbered_eq hcs hds hi
  · exact alternate_eq (fun i => h.numbered_eq hcs hds) hnext hj

lemma OffAt.taken_of_taken (hsettled : Settled name k cs ds) (htaken : taken name cs k = true)
    {d : List Char} (hd : ds[k]? = some d) (hnumber : isNumber d = true) :
    taken name ds k = true := by
  obtain ⟨hi, hlast, hprev, -⟩ := numbered_iff.mp (numbered_of_taken htaken)
  obtain ⟨m, rfl⟩ : ∃ m, k = m + 2 := ⟨k - 2, by omega⟩
  have hnumbered : numbered name ds (m + 2) = true := by
    rw [h.same _ (by omega)] at hprev
    exact numbered_iff.mpr ⟨hi, h.length_eq ▸ hlast, hprev, d, hd, hnumber⟩
  have hfree : alternate (numbered name ds) m = alternate (numbered name cs) m :=
    (h.taken_eq hcs hds hsettled (by omega)).symm
  unfold taken at htaken ⊢
  rw [alternate, Bool.and_eq_true] at htaken ⊢
  exact ⟨hnumbered, hfree ▸ htaken.2⟩

end

/-! ### What is written -/

/-- What becomes of a component where the sweep over numbers after a name comes to a number. -/
def marked (pid : UInt32) (name c : List Char) : List Char :=
  if isNumber c then if name = "proc".toList then pidOrStar pid c else star c else c

lemma getElem?_written_of_taken (hname : name ∈ names) (htaken : taken name cs k = true)
    (pid : UInt32) : (written pid cs)[k]? = cs[k]?.map (marked pid name) := by
  obtain ⟨-, -, hprev, c, hc, hnumber⟩ := numbered_iff.mp (numbered_of_taken htaken)
  rw [getElem?_written, hc]
  simp only [Option.map_some, marked, if_pos hnumber]
  rcases List.mem_cons.mp hname with rfl | hname
  · rw [if_pos htaken, if_pos rfl]
  · obtain rfl := List.mem_singleton.mp hname
    rw [taken_of_ne hprev (by decide), if_pos htaken, if_neg (by decide)]
    rfl

lemma getElem?_written_of_not_taken (h : ∀ name ∈ names, taken name cs k = false) (pid : UInt32) :
    (written pid cs)[k]? = cs[k]? := by
  rw [getElem?_written, h _ List.mem_cons_self, h _ (List.mem_cons_of_mem _ List.mem_cons_self)]
  rfl

namespace OffAt

/-- The sweeps over numbers do the same to all other components. -/
lemma written (h : OffAt k cs ds) (hcs : ∀ name ∈ names, cs[k]? ≠ some name)
    (hds : ∀ name ∈ names, ds[k]? ≠ some name) (hsettled : ∀ name ∈ names, Settled name k cs ds)
    (pid : UInt32) : OffAt k (written pid cs) (written pid ds) where
  length_eq := by simp only [Builtin.written, length_numbers, h.length_eq]
  same j hj := by
    have htaken : ∀ name ∈ names, taken name cs j = taken name ds j := fun name hname =>
      h.taken_eq (hcs name hname) (hds name hname) (hsettled name hname) hj
    rw [getElem?_written, getElem?_written, htaken _ List.mem_cons_self,
      htaken _ (List.mem_cons_of_mem _ List.mem_cons_self), h.same j hj]

/-- Where a number is taken, any other one in its place would be. -/
lemma written_of_taken (h : OffAt k cs ds) (hname : name ∈ names) (hcs : cs[k]? ≠ some name)
    (hds : ds[k]? ≠ some name) (hsettled : Settled name k cs ds) (htaken : taken name cs k = true)
    (pid : UInt32) : (Builtin.written pid ds)[k]? = ds[k]?.map (marked pid name) := by
  cases hd : ds[k]? with
  | none =>
    rw [getElem?_written, hd]
    split_ifs <;> rfl
  | some d =>
    by_cases hnumber : isNumber d = true
    · rw [getElem?_written_of_taken hname (h.taken_of_taken hcs hds hsettled htaken hd hnumber), hd]
    · rw [Option.map_some, marked, if_neg hnumber, getElem?_written_of_not_taken, hd]
      intro other _
      refine Bool.eq_false_iff.mpr fun htaken' => hnumber ?_
      obtain ⟨-, -, -, c, hc, hcnumber⟩ := numbered_iff.mp (numbered_of_taken htaken')
      rwa [Option.some.inj (hd.symm.trans hc)]

/-- A sweep that comes to one of two numbers comes to the other one if that is a number. -/
lemma written_of_either (h : OffAt k cs ds) (hname : name ∈ names) (hcs : cs[k]? ≠ some name)
    (hds : ds[k]? ≠ some name) (hsettled : Settled name k cs ds)
    (htaken : taken name cs k = true ∨ taken name ds k = true) (pid : UInt32) :
    (Builtin.written pid cs)[k]? = cs[k]?.map (marked pid name) ∧
      (Builtin.written pid ds)[k]? = ds[k]?.map (marked pid name) := by
  rcases htaken with htaken | htaken
  · exact ⟨getElem?_written_of_taken hname htaken pid,
      h.written_of_taken hname hcs hds hsettled htaken pid⟩
  · have hsettled' : Settled name k ds cs :=
      hsettled.imp Eq.symm ((h.numbered_eq hcs hds (by omega)).symm.trans ·)
    exact ⟨h.symm.written_of_taken hname hds hcs hsettled' htaken pid,
      getElem?_written_of_taken hname htaken pid⟩

lemma forall₂ {R : List Char → List Char → Prop} (h : OffAt k cs ds) (hrefl : ∀ c, R c c)
    (hk : ∀ c d, cs[k]? = some c → ds[k]? = some d → R c d) : List.Forall₂ R cs ds := by
  refine List.forall₂_iff_get.mpr ⟨h.length_eq, fun j hj hj' => ?_⟩
  have hcs := List.getElem?_eq_getElem hj
  have hds := List.getElem?_eq_getElem hj'
  by_cases hjk : j = k
  · subst hjk
    exact hk _ _ hcs hds
  · rw [h.same j hjk] at hcs
    rw [List.get_eq_getElem, List.get_eq_getElem, Option.some.inj (hcs.symm.trans hds)]
    exact hrefl _

end OffAt

end StablePath.Builtin
