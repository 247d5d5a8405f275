import StablePath.Proofs.Builtin.Segments
import StablePath.Proofs.Rule.Pieces

/-!
Container ids in components.

No container id reaches over a slash, so the sweep over them works on each component by itself. In a
component of hexadecimal digits it takes 64 digits at a time, and in the end what is left if that is
long enough.
-/

namespace StablePath.Builtin

open Pattern

/-! ### Component by component -/

section

variable {H : Hit → Prop} {N : List Char → Prop} {text out : List Char}

lemma components_of_sweeps (hslash : Delimits '/' H N) (h : Sweeps H N star text out) :
    List.Forall₂ (Sweeps H N star) (components text) (components out) := by
  obtain ⟨c, cs, hcs⟩ := exists_cons_components text
  induction cs generalizing text out c with
  | nil =>
    obtain ⟨rfl, hc⟩ := eq_of_components_eq_singleton hcs
    rw [hcs, components_of_not_mem (h.not_mem (by decide) hc)]
    exact .cons h .nil
  | cons d cs ih =>
    obtain ⟨text', rfl, hc, htext'⟩ := exists_of_components_eq hcs
    obtain ⟨o, out', rfl, ho, hout'⟩ := hslash.split h
    rw [components_append hc, components_append (ho.not_mem (by decide) hc)]
    exact .cons ho (ih hout' d htext')

end

lemma delimits_id {d : Char} (hd : isHexOrHyphen d = false) : Delimits d IsId NoId where
  free hit h hmem := by
    simp only [Hit.taken, h.lead, h.tail, List.nil_append, List.append_nil] at hmem
    rw [h.isContainerId.chars d hmem] at hd
    cases hd
  found hit h a z hrest := by
    have hlength := h.length
    have htext : hit.text = (hit.span ++ a) ++ d :: z := by
      rw [h.text_eq, hrest, List.append_assoc]
    rw [htext, idLength?_append (by simpa using hd)] at hlength
    refine ⟨h.lead, h.tail, ?_⟩
    rw [← hlength]
    simp [Hit.text, Hit.taken, h.lead, h.tail]
  none a z h := by
    unfold NoId at h ⊢
    rwa [idLength?_append (by simpa using hd)] at h

/-! ### Runs of digits alone -/

variable {id out : List Char}

lemma sweeps_of_short (hhex : ∀ c ∈ id, isHex c = true) (hshort : id.length < 28)
    (h : Sweeps IsId NoId star id out) : out = id := by
  refine h.unique exact_id (.refl fun rest hrest => ?_)
  have hle := hrest.length_le
  unfold NoId
  rw [idLength?_of_hex fun c hc => hhex c (hrest.subset hc), if_neg (by omega), if_neg (by omega)]

/-- A longer run loses up to 64 digits to a star. -/
lemma sweeps_of_long (hhex : ∀ c ∈ id, isHex c = true) (hlong : 28 ≤ id.length)
    (h : Sweeps IsId NoId star id out) :
    ∃ out', out = '*' :: out' ∧ Sweeps IsId NoId star (id.drop 64) out' := by
  have htext := text_take_drop id 64
  have hid : IsId ⟨[], id.take 64, [], id.drop 64⟩ := by
    refine ⟨rfl, rfl, ?_⟩
    rw [htext, idLength?_of_hex hhex, List.length_take]
    split_ifs with hlt
    · rw [Nat.min_eq_left hlt]
    · rw [Nat.min_eq_right (Nat.le_of_not_le hlt)]
  rw [← htext] at h
  refine h.of_hit exact_id hid fun hnil => ?_
  have hlength := congrArg List.length hnil
  simp only [Hit.taken, List.nil_append, List.append_nil, List.length_take, List.length_nil]
    at hlength
  omega

/-- Of a run that is long enough a star is left, and nothing else if it is not too long for one
id. -/
lemma star_of_long (hhex : ∀ c ∈ id, isHex c = true) (hlong : 28 ≤ id.length)
    (h : Sweeps IsId NoId star id out) : '*' ∈ out ∧ (out = ['*'] ↔ id.length ≤ 64) := by
  obtain ⟨out, rfl, hlater⟩ := sweeps_of_long hhex hlong h
  refine ⟨List.mem_cons_self, ?_⟩
  rw [List.cons_eq_cons, eq_self_iff_true, true_and, hlater.eq_nil_iff (fun _ => by simp [star]),
    List.drop_eq_nil_iff]

end StablePath.Builtin
