import StablePath.Proofs.Rule.Sweep

/-!
Texts under stars.

A rule with a star for its replacement puts a star over some parts of a text and keeps the rest.
So whatever is read in the outcome can be read in the text, with the stars lifted off, and what has
no star in it stood in the text as it is.
-/

namespace StablePath

open Pattern

/-- Everything is starred. -/
def star (_ : List Char) : List Char := ['*']

/-- `out` is a text in which stars cover some parts. `W` says what a star may cover where; `before`
is what stands before the outcome. -/
inductive Masks (W : (before old : List Char) → Prop) : (before text out : List Char) → Prop
  | nil (before : List Char) : Masks W before [] []
  | keep {before text out : List Char} (c : Char) (later : Masks W (before ++ [c]) text out) :
      Masks W before (c :: text) (c :: out)
  | mask {before text out : List Char} (old : List Char) (h : W before old)
      (later : Masks W (before ++ ['*']) text out) : Masks W before (old ++ text) ('*' :: out)

namespace Masks

variable {W : List Char → List Char → Prop} {before text out : List Char}

lemma kept (s : List Char) (h : Masks W (before ++ s) text out) :
    Masks W before (s ++ text) (s ++ out) := by
  induction s generalizing before with
  | nil => simpa using h
  | cons c s ih => exact .keep c (ih (by simpa using h))

lemma split {out₁ out₂ : List Char} (h : Masks W before text (out₁ ++ out₂)) :
    ∃ text₁ text₂, text = text₁ ++ text₂ ∧ Masks W before text₁ out₁ ∧
      Masks W (before ++ out₁) text₂ out₂ := by
  induction out₁ generalizing before text with
  | nil => exact ⟨[], text, rfl, .nil _, by simpa using h⟩
  | cons c out₁ ih =>
    cases h with
    | keep _ later =>
      obtain ⟨text₁, text₂, rfl, h₁, h₂⟩ := ih later
      exact ⟨c :: text₁, text₂, rfl, .keep c h₁, by simpa using h₂⟩
    | mask old hold later =>
      obtain ⟨text₁, text₂, rfl, h₁, h₂⟩ := ih later
      exact ⟨old ++ text₁, text₂, by simp, .mask old hold h₁, by simpa using h₂⟩

lemma eq_of_not_mem (h : Masks W before text out) (hstar : '*' ∉ out) : text = out := by
  induction h with
  | nil => rfl
  | keep c _ ih => rw [ih fun hmem => hstar (List.mem_cons_of_mem _ hmem)]
  | mask => exact absurd List.mem_cons_self hstar

/-- What has no star stands in the text as in the outcome, and the rest comes from the rest. -/
lemma split_of_not_mem {w rest : List Char} (h : Masks W before text (w ++ rest))
    (hstar : '*' ∉ w) : ∃ text', text = w ++ text' ∧ Masks W (before ++ w) text' rest := by
  obtain ⟨w', text', rfl, hw, hrest⟩ := h.split
  rw [hw.eq_of_not_mem hstar]
  exact ⟨text', rfl, hrest⟩

lemma infix_of (h : Masks W before text out) {w : List Char} (hstar : '*' ∉ w)
    (hw : w <:+: out) : w <:+: text := by
  obtain ⟨x, y, rfl⟩ := hw
  rw [List.append_assoc] at h
  obtain ⟨x', text', rfl, -, hrest⟩ := h.split
  obtain ⟨y', rfl, -⟩ := hrest.split_of_not_mem hstar
  exact ⟨x', y', by simp⟩

lemma not_mem (hW : ∀ before old, W before old → '/' ∉ old) (h : Masks W before text out)
    (hout : '/' ∉ out) : '/' ∉ text := by
  induction h with
  | nil => exact hout
  | keep c _ ih =>
    obtain ⟨hc, hout⟩ := not_or.mp (mt List.mem_cons.mpr hout)
    exact mt List.mem_cons.mp (not_or.mpr ⟨hc, ih hout⟩)
  | mask old hold _ ih =>
    have hout' := (not_or.mp (mt List.mem_cons.mpr hout)).2
    exact mt List.mem_append.mp (not_or.mpr ⟨hW _ old hold, ih hout'⟩)

lemma eq_nil (hW : ¬ W before []) (h : Masks W before text out) (htext : text = []) : out = [] := by
  cases h with
  | nil => rfl
  | keep => cases htext
  | mask old hold =>
    obtain ⟨rfl, -⟩ := List.append_eq_nil_iff.mp htext
    exact absurd hold hW

lemma eq_star (hnil : ¬ W before []) (hstar : ¬ W before ['*']) (hmore : ¬ W (before ++ ['*']) [])
    (h : Masks W before text out) (htext : text = ['*']) : out = ['*'] := by
  cases h with
  | nil => cases htext
  | keep c later =>
    obtain ⟨rfl, hrest⟩ := List.cons.inj htext
    rw [later.eq_nil hmore hrest]
  | mask old hold later =>
    cases old with
    | nil => exact absurd hold hnil
    | cons c old =>
      obtain ⟨rfl, hrest⟩ := List.cons.inj htext
      obtain ⟨rfl, -⟩ := List.append_eq_nil_iff.mp hrest
      exact absurd hold hstar

/-- A star that covers no star is only found alone where it stood alone. -/
lemma eq_star_of_mem (hW : ∀ old, W before old → '*' ∉ old) (h : Masks W before text out)
    (hout : out = ['*']) (hstar : '*' ∈ text) : text = ['*'] := by
  have hnil : ∀ {before text out}, Masks W before text out → out = [] → text = [] := by
    intro before text out h hout
    cases h with
    | nil => rfl
    | keep => cases hout
    | mask => cases hout
  cases h with
  | nil => cases hout
  | keep c later =>
    obtain ⟨rfl, hrest⟩ := List.cons.inj hout
    rw [hnil later hrest]
  | mask old hold later =>
    rw [hnil later (List.cons.inj hout).2, List.append_nil] at hstar
    exact absurd hstar (hW old hold)

end Masks

namespace Sweeps

variable {H : Hit → Prop} {N : List Char → Prop} {text out : List Char}

lemma masks {W : List Char → List Char → Prop}
    (hW : ∀ before hit, H hit → W (before ++ hit.lead) hit.span) (h : Sweeps H N star text out)
    (before : List Char) : Masks W before text out := by
  induction h generalizing before with
  | done => exact .nil before
  | skip _ _ ih => exact .keep _ (ih _)
  | @hit hit out found _ _ ih =>
    have hmask := Masks.mask hit.span (hW before hit found)
      (Masks.kept hit.tail (ih ((before ++ hit.lead ++ ['*']) ++ hit.tail)))
    simpa [Hit.text, Hit.taken, star] using Masks.kept hit.lead hmask

end Sweeps

/-! ### Words that cannot survive -/

lemma prefix_of_append_cons {w a b : List Char} {c : Char} (hc : c ∉ w)
    (h : w <+: a ++ c :: b) : w <+: a := by
  obtain ⟨y, hy⟩ := h
  rcases List.append_eq_append_iff.mp hy with ⟨a', rfl, -⟩ | ⟨extra, rfl, hextra⟩
  · exact List.prefix_append _ _
  · cases extra with
    | nil => exact ⟨[], by simp⟩
    | cons d extra =>
      obtain ⟨rfl, -⟩ := List.cons.inj hextra
      exact absurd (by simp) hc

lemma infix_of_append_cons {w a b : List Char} {c : Char} (hc : c ∉ w)
    (h : w <:+: a ++ c :: b) : w <:+: a ∨ w <:+: b := by
  induction a with
  | nil =>
    rcases List.infix_cons_iff.mp h with hw | hw
    · exact Or.inl (prefix_of_append_cons (a := []) hc hw).isInfix
    · exact Or.inr hw
  | cons d a ih =>
    rcases List.infix_cons_iff.mp h with hw | hw
    · exact Or.inl (prefix_of_append_cons (a := d :: a) hc hw).isInfix
    · exact (ih hw).imp_left fun hw => hw.trans (List.suffix_cons d a).isInfix

namespace Sweeps

variable {H : Hit → Prop} {N : List Char → Prop} {text out : List Char}

/-- **No bad word survives a sweep**, if none starts where there is no match and none lies in what
is kept of a match. -/
lemma not_isInfix {Bad : List Char → Prop} (hbad : ∀ w, Bad w → w ≠ [] ∧ '*' ∉ w)
    (hnone : ∀ text, N text → ∀ w, Bad w → ¬ w <+: text)
    (hhit : ∀ hit, H hit → hit.tail = [] ∧ ∀ w, Bad w → ¬ w <:+: hit.lead)
    (h : Sweeps H N star text out) : ∀ w, Bad w → ¬ w <:+: out := by
  intro w hw
  obtain ⟨hne, hstar⟩ := hbad w hw
  induction h with
  | done => exact fun hin => hne (List.infix_nil.mp hin)
  | @skip c text out none later ih =>
    intro hin
    rcases List.infix_cons_iff.mp hin with ⟨rest, hrest⟩ | hin
    · have hmasks := (skip none later).masks (W := fun _ _ => True) (fun _ _ _ => trivial) []
      rw [← hrest] at hmasks
      obtain ⟨text', htext, -⟩ := hmasks.split_of_not_mem hstar
      exact hnone _ none w hw ⟨text', htext.symm⟩
    · exact ih hin
  | @hit hit out found _ _ ih =>
    obtain ⟨htail, hlead⟩ := hhit hit found
    rw [htail, List.append_nil, star, List.append_assoc]
    intro hin
    rcases infix_of_append_cons hstar hin with hin | hin
    · exact hlead w hw hin
    · exact ih hin

end Sweeps

end StablePath
