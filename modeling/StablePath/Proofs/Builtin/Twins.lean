import StablePath.Proofs.Builtin.Untouched

/-!
Two observers of one path.

What two processes see of a path differs in some entries behind `proc`: one text has `self` where
the other one has a star. A sweep that does not look into such entries does the same to both texts,
however far an entry has moved what follows it.
-/

namespace StablePath.Builtin

open Pattern

/-- What an entry that is written over begins with. -/
def stem : List Char := ['p', 'r', 'o', 'c', '/']

/-- The entries that are written over. -/
def entries : List (List Char) := marks.map (stem ++ ·)

/-- Two texts that differ at most in the marks of some entries, which end at a slash. -/
inductive Twins : List Char → List Char → Prop
  | nil : Twins [] []
  | keep (c : Char) {x y : List Char} (later : Twins x y) : Twins (c :: x) (c :: y)
  | swap {u v x y : List Char} (hu : u ∈ entries) (hv : v ∈ entries)
      (later : Twins ('/' :: x) ('/' :: y)) : Twins (u ++ '/' :: x) (v ++ '/' :: y)

lemma stem_isPrefix {b : List Char} (h : b ∈ entries) : stem <+: b := by
  revert b
  decide

/-- No entry begins in a text, whatever follows the text. -/
def Apart (w : List Char) : Prop := ∀ s ∈ w.tails, s ≠ [] → ¬ s <+: stem ∧ ¬ stem <+: s

instance (w : List Char) : Decidable (Apart w) :=
  inferInstanceAs (Decidable (∀ s ∈ w.tails, s ≠ [] → ¬ s <+: stem ∧ ¬ stem <+: s))

namespace Twins

variable {x y : List Char}

lemma symm (h : Twins x y) : Twins y x := by
  induction h with
  | nil => exact .nil
  | keep c _ ih => exact .keep c ih
  | swap hu hv _ ih => exact .swap hv hu ih

lemma kept (s : List Char) (h : Twins x y) : Twins (s ++ x) (s ++ y) := by
  induction s with
  | nil => exact h
  | cons c s ih => exact .keep c ih

lemma of_nil (h : Twins [] y) : y = [] := by
  generalize hx : ([] : List Char) = x at h
  cases h with
  | nil => rfl
  | keep => cases hx
  | swap => simp at hx

lemma head?_eq (h : Twins x y) : x.head? = y.head? := by
  cases h with
  | nil => rfl
  | keep => rfl
  | swap hu hv =>
    obtain ⟨u, rfl⟩ := stem_isPrefix hu
    obtain ⟨v, rfl⟩ := stem_isPrefix hv
    rfl

/-- What lies apart from the entries is in both texts. -/
lemma exists_append {w rest : List Char} (hw : Apart w) (h : Twins (w ++ rest) y) :
    ∃ rest', y = w ++ rest' ∧ Twins rest rest' := by
  induction w generalizing y with
  | nil => exact ⟨y, rfl, h⟩
  | cons c w ih =>
    generalize hx : c :: w ++ rest = x at h
    cases h with
    | nil => cases hx
    | keep d later =>
      obtain ⟨rfl, rfl⟩ := List.cons.inj hx
      have hw' : Apart w := fun s hs => hw s (List.mem_cons_of_mem _ hs)
      obtain ⟨rest', rfl, hrest⟩ := ih hw' later
      exact ⟨rest', rfl, hrest⟩
    | @swap u v x y hu hv later =>
      obtain ⟨hno, hno'⟩ := hw (c :: w) List.mem_cons_self (by simp)
      have hstem : stem <+: c :: w ++ rest := by
        rw [hx]
        exact (stem_isPrefix hu).trans (List.prefix_append _ _)
      rcases List.prefix_or_prefix_of_prefix hstem (List.prefix_append _ _) with h | h
      · exact absurd h hno'
      · exact absurd h hno

end Twins

/-! ### Sweeps over twins -/

/-- A sweep that does not look into entries: a match has no part of one, and what it takes is taken
from a twin too. -/
structure Blind (H : Hit → Prop) (N : List Char → Prop) : Prop extends Exact H N where
  apart : ∀ hit, H hit → Apart hit.taken
  outside : ∀ hit, H hit → ∀ b ∈ entries, ∀ s ∈ b.tails, s ≠ [] → ¬ s ++ ['/'] <+: hit.text
  slash : ∀ hit, H hit → ∀ rest, hit.text = '/' :: rest → ∃ lead, hit.lead = '/' :: lead
  twin : ∀ hit, H hit → ∀ rest, Twins hit.rest rest → H { hit with rest }

namespace Blind

variable {H : Hit → Prop} {N : List Char → Prop} {x y out out' : List Char} (hH : Blind H N)

include hH

lemma exists_twin {hit : Hit} (hhit : H hit) (h : Twins hit.text y) :
    ∃ rest, y = hit.taken ++ rest ∧ Twins hit.rest rest ∧ H { hit with rest } := by
  obtain ⟨rest, rfl, hrest⟩ := h.exists_append (hH.apart hit hhit)
  exact ⟨rest, rfl, hrest, hH.twin hit hhit rest hrest⟩

lemma sweeps_of_entry {b s : List Char} (hb : b ∈ entries) (hs : s <:+ b)
    (h : Sweeps H N star (s ++ '/' :: x) out) :
    ∃ out', out = s ++ out' ∧ Sweeps H N star ('/' :: x) out' := by
  refine h.of_no_start fun t hne ht hit hhit htext => ?_
  refine hH.outside hit hhit b hb t ((List.mem_tails _ _).mpr (ht.trans hs)) hne ?_
  exact ⟨x, by simp [htext]⟩

lemma sweeps_of_slash (h : Sweeps H N star ('/' :: x) out) : ∃ out', out = '/' :: out' := by
  rcases h.inv with ⟨hnil, -⟩ | ⟨c, text', out', htext, rfl, -⟩ |
    ⟨hit, out', htext, rfl, hhit, -⟩
  · cases hnil
  · obtain ⟨rfl, -⟩ := List.cons.inj htext
    exact ⟨out', rfl⟩
  · obtain ⟨lead, hlead⟩ := hH.slash hit hhit x htext.symm
    exact ⟨lead ++ star hit.span ++ hit.tail ++ out', by simp [hlead]⟩

/-- **A blind sweep makes twins of twins.** -/
theorem sweeps_twins (h : Sweeps H N star x out) (h' : Sweeps H N star y out')
    (ht : Twins x y) : Twins out out' := by
  -- on the length: a match or an entry takes more than the first character
  induction hn : x.length using Nat.strongRecOn generalizing x y out out' with
  | ind n ih =>
    rcases h.inv with ⟨rfl, rfl⟩ | ⟨c, x₁, o, hx, hout, hnone, later⟩ |
      ⟨hit, o, rfl, rfl, hhit, hne, later⟩
    · obtain rfl := ht.of_nil
      obtain rfl := h'.eq_nil
      exact .nil
    · cases ht with
      | nil => cases hx
      | @keep d x y tail =>
        obtain ⟨rfl, rfl⟩ := List.cons.inj hx
        rcases h'.inv with ⟨hnil, -⟩ | ⟨d, y₁, o', hy, rfl, -, later'⟩ |
          ⟨hit, o', hy, -, hhit, -⟩
        · cases hnil
        · obtain ⟨rfl, rfl⟩ := List.cons.inj hy
          rw [hout]
          exact .keep d (ih x.length (by simp [← hn]) later later' tail rfl)
        · -- a match in the twin would be one here
          have hback : Twins hit.text (d :: x) := hy ▸ (Twins.keep d tail).symm
          obtain ⟨rest, hx', -, hhit'⟩ := hH.exists_twin hhit hback
          rw [hx'] at hnone
          exact absurd hnone (hH.none _ hhit')
      | @swap u v x y hu hv tail =>
        obtain ⟨o, rfl, hsweep⟩ := hH.sweeps_of_entry hu List.suffix_rfl h
        obtain ⟨o', rfl, hsweep'⟩ := hH.sweeps_of_entry hv List.suffix_rfl h'
        have hlt : ('/' :: x).length < n := by
          obtain ⟨u, rfl⟩ := stem_isPrefix hu
          simp only [← hn, List.length_append, List.length_cons, stem]
          omega
        have htwins := ih _ hlt hsweep hsweep' tail rfl
        obtain ⟨o, rfl⟩ := hH.sweeps_of_slash hsweep
        obtain ⟨o', rfl⟩ := hH.sweeps_of_slash hsweep'
        exact .swap hu hv htwins
    · obtain ⟨rest, rfl, hrest, hhit'⟩ := hH.exists_twin hhit ht
      have hsweep : Sweeps H N star ({ hit with rest } : Hit).text out' := h'
      obtain ⟨o', rfl, later'⟩ := hsweep.of_hit hH.toExact hhit' hne
      refine Twins.kept (hit.lead ++ star hit.span ++ hit.tail) ?_
      refine ih hit.rest.length ?_ later later' hrest rfl
      have hpos := List.length_pos_iff.mpr hne
      rw [← hn, Hit.text, List.length_append]
      omega

end Blind

/-! ### Sweeps that are blind -/

section

variable {leads tails : List (List Char)} {lo : Nat} {p : Char → Bool}

/-- A match that lies apart from the entries is the longest one in a twin too. -/
lemma longest_twin (hapart : ∀ hit, Around leads lo p tails hit → Apart hit.taken) {hit : Hit}
    (h : Longest (Around leads lo p tails) hit) {rest : List Char} (htwins : Twins hit.rest rest) :
    Longest (Around leads lo p tails) { hit with rest } := by
  obtain ⟨hshape, hlongest⟩ := h
  refine ⟨⟨hshape.lead, hshape.enough, hshape.span, hshape.tail⟩, ?_⟩
  intro other hother htext hlead
  have hback : Twins other.text hit.text := by
    rw [htext]
    exact (Twins.kept hit.taken htwins).symm
  obtain ⟨rest', hrest', -⟩ := hback.exists_append (hapart other hother)
  exact hlongest { other with rest := rest' }
    ⟨hother.lead, hother.enough, hother.span, hother.tail⟩ hrest'.symm hlead

/-- Within an entry, up to its slash, none of some texts begins. -/
def Outside (leads : List (List Char)) : Prop :=
  ∀ lead ∈ leads, ∀ b ∈ entries, ∀ s ∈ b.tails, s ≠ [] →
    ¬ lead <+: s ++ ['/'] ∧ ¬ s ++ ['/'] <+: lead

instance (leads : List (List Char)) : Decidable (Outside leads) :=
  inferInstanceAs (Decidable (∀ lead ∈ leads, ∀ b ∈ entries, ∀ s ∈ b.tails, s ≠ [] →
    ¬ lead <+: s ++ ['/'] ∧ ¬ s ++ ['/'] <+: lead))

lemma blind_longest (hleads : PrefixFree leads) (htails : PrefixFree tails) (hne : [] ∉ leads)
    (houtside : Outside leads) (hapart : ∀ hit, Around leads lo p tails hit → Apart hit.taken) :
    Blind (Longest (Around leads lo p tails)) (NoHit (Around leads lo p tails)) where
  toExact := exact_longest hleads htails
  apart hit h := hapart hit h.1
  outside hit h b hb s hs hs' hstart := by
    obtain ⟨hno, hno'⟩ := houtside hit.lead h.1.lead b hb s hs hs'
    rcases List.prefix_or_prefix_of_prefix hstart hit.lead_isPrefix with h | h
    · exact hno' h
    · exact hno h
  slash hit h rest htext := by
    cases hlead : hit.lead with
    | nil => exact absurd (hlead ▸ h.1.lead) hne
    | cons c lead =>
      rw [Hit.text, Hit.taken, hlead] at htext
      obtain ⟨rfl, -⟩ := List.cons.inj htext
      exact ⟨lead, rfl⟩
  twin _ h _ htwins := longest_twin hapart h htwins

end

end StablePath.Builtin
