import StablePath.Proofs.Rule.Masking

/-!
Sweeps piece by piece.

A sweep has one outcome. Where no match begins it keeps what there is, and it goes on behind a
character that is in no match as if it began there.
-/

namespace StablePath

open Pattern

/-! ### Cutting lists -/

section

variable {α : Type} {a b x z : List α} {d : α}

/-- What has no delimiter in it ends before the delimiter. -/
lemma exists_of_append_eq_append_cons (h : a ++ b = x ++ d :: z) (hd : d ∉ a) :
    ∃ x', x = a ++ x' ∧ b = x' ++ d :: z := by
  rcases List.append_eq_append_iff.mp h with ⟨x', rfl, hb⟩ | ⟨extra, rfl, hextra⟩
  · exact ⟨x', rfl, hb⟩
  · cases extra with
    | nil => exact ⟨[], by simp, hextra.symm⟩
    | cons e extra =>
      obtain ⟨rfl, -⟩ := List.cons.inj hextra
      exact absurd (by simp) hd

end

namespace Sweeps

variable {H : Hit → Prop} {N : List Char → Prop} {r : List Char → List Char}
  {text out out' : List Char}

/-- **A sweep has one outcome.** -/
lemma unique (hexact : Exact H N) (h : Sweeps H N r text out) (h' : Sweeps H N r text out') :
    out = out' := by
  induction h generalizing out' with
  | done => exact h'.eq_nil.symm
  | skip none _ ih =>
    obtain ⟨out', rfl, later'⟩ := h'.of_none hexact none
    rw [ih later']
  | hit found ne _ ih =>
    obtain ⟨out', rfl, later'⟩ := h'.of_hit hexact found ne
    rw [ih later']

lemma of_no_start {w rest : List Char}
    (hno : ∀ s, s ≠ [] → s <:+ w → ∀ hit, H hit → hit.text ≠ s ++ rest)
    (h : Sweeps H N r (w ++ rest) out) : ∃ out', out = w ++ out' ∧ Sweeps H N r rest out' := by
  induction w generalizing out with
  | nil => exact ⟨out, rfl, h⟩
  | cons c w ih =>
    rcases h.inv with ⟨hnil, -⟩ | ⟨d, text', out', htext, rfl, -, later⟩ |
      ⟨hit, _, htext, -, hhit, -⟩
    · cases hnil
    · obtain ⟨rfl, rfl⟩ := List.cons.inj htext
      obtain ⟨out'', rfl, hsweep⟩ :=
        ih (fun s hne hs => hno s hne (hs.trans (List.suffix_cons c w))) later
      exact ⟨out'', rfl, hsweep⟩
    · exact absurd htext.symm (hno (c :: w) (by simp) List.suffix_rfl hit hhit)

lemma not_mem {d : Char} (hd : d ≠ '*') (h : Sweeps H N star text out) (htext : d ∉ text) :
    d ∉ out := by
  induction h with
  | done => exact htext
  | skip _ _ ih =>
    obtain ⟨hc, htext⟩ := not_or.mp (mt List.mem_cons.mpr htext)
    exact mt List.mem_cons.mp (not_or.mpr ⟨hc, ih htext⟩)
  | hit _ _ _ ih =>
    simp only [Hit.text, Hit.taken, star, List.mem_append, List.mem_singleton, not_or] at htext ⊢
    exact ⟨⟨⟨htext.1.1.1, hd⟩, htext.1.2⟩, ih htext.2⟩

lemma eq_nil_iff (hr : ∀ span, r span ≠ []) (h : Sweeps H N r text out) :
    out = [] ↔ text = [] := by
  rcases h.inv with ⟨rfl, rfl⟩ | ⟨c, text', out', rfl, rfl, -⟩ | ⟨hit, out', rfl, rfl, -, hne, -⟩
  · exact Iff.rfl
  · simp
  · simp [Hit.text, hne, hr hit.span]

lemma eq_of_no_lead {leads tails : List (List Char)} {lo : Nat} {p : Char → Bool}
    (habsent : ∀ lead ∈ leads, ¬ lead <:+: text)
    (h : Sweeps (Longest (Around leads lo p tails)) N r text out) : out = text := by
  rw [← List.append_nil text] at h
  obtain ⟨out', rfl, hnil⟩ := h.of_no_start fun s _ hs hit hhit htext => by
    refine habsent _ hhit.1.lead (List.IsInfix.trans ?_ hs.isInfix)
    rw [← List.append_nil s, ← htext]
    exact hit.lead_isPrefix.isInfix
  rw [hnil.eq_nil, List.append_nil]

end Sweeps

/-! ### Delimiters -/

/-- A character is in no match, and what stands behind it does not count for what there is before
it. -/
structure Delimits (d : Char) (H : Hit → Prop) (N : List Char → Prop) : Prop where
  free : ∀ hit, H hit → d ∉ hit.taken
  found : ∀ hit, H hit → ∀ a z, hit.rest = a ++ d :: z → H { hit with rest := a }
  none : ∀ a z, N (a ++ d :: z) → N a

/-- **A sweep goes on behind a delimiter as if it began there.** -/
theorem Delimits.split {d : Char} {H : Hit → Prop} {N : List Char → Prop} (hd : Delimits d H N)
    {r : List Char → List Char} {a z out : List Char} (h : Sweeps H N r (a ++ d :: z) out) :
    ∃ o o', out = o ++ d :: o' ∧ Sweeps H N r a o ∧ Sweeps H N r z o' := by
  generalize htext : a ++ d :: z = text at h
  induction h generalizing a with
  | done => simp at htext
  | @skip c text out none later ih =>
    cases a with
    | nil =>
      obtain ⟨rfl, rfl⟩ := List.cons.inj htext
      exact ⟨[], out, rfl, .done, later⟩
    | cons c' a =>
      obtain ⟨rfl, rfl⟩ := List.cons.inj htext
      obtain ⟨o, o', rfl, ho, ho'⟩ := ih rfl
      exact ⟨c' :: o, o', rfl, .skip (hd.none (c' :: a) z none) ho, ho'⟩
  | @hit hit out found ne later ih =>
    obtain ⟨a', rfl, hrest⟩ := exists_of_append_eq_append_cons htext.symm (hd.free hit found)
    obtain ⟨o, o', rfl, ho, ho'⟩ := ih hrest.symm
    exact ⟨hit.lead ++ r hit.span ++ hit.tail ++ o, o', by simp,
      .hit (hd.found hit found a' z hrest) ne ho, ho'⟩

section

variable {leads tails : List (List Char)} {lo : Nat} {p : Char → Bool} {d : Char}

lemma delimits_longest (hleads : ∀ lead ∈ leads, d ∉ lead) (hp : p d = false)
    (htails : ∀ tail ∈ tails, d ∉ tail) :
    Delimits d (Longest (Around leads lo p tails)) (NoHit (Around leads lo p tails)) where
  free hit h hmem := by
    obtain ⟨hlead, -, hspan, htail⟩ := h.1
    simp only [Hit.taken, List.mem_append] at hmem
    rcases hmem with (hmem | hmem) | hmem
    · exact hleads _ hlead hmem
    · rw [hspan d hmem] at hp
      cases hp
    · exact htails _ htail hmem
  found hit h a z hrest := by
    obtain ⟨⟨hlead, henough, hspan, htail⟩, hlongest⟩ := h
    -- a longer match would be one in front of the delimiter, too
    refine ⟨⟨hlead, henough, hspan, htail⟩, fun other hother htext => ?_⟩
    refine hlongest { other with rest := other.rest ++ d :: z }
      ⟨hother.lead, hother.enough, hother.span, hother.tail⟩ ?_
    have hmore : other.taken ++ other.rest ++ d :: z = hit.taken ++ a ++ d :: z :=
      congrArg (· ++ d :: z) htext
    simpa [Hit.text, Hit.taken, hrest] using hmore
  none a z h hit htext hhit := by
    refine h { hit with rest := hit.rest ++ d :: z } ?_
      ⟨hhit.lead, hhit.enough, hhit.span, hhit.tail⟩
    rw [← htext]
    simp [Hit.text, Hit.taken]

end

end StablePath
