import StablePath.Proofs.Pattern.Hit
import StablePath.Proofs.Pattern.Order
import StablePath.Proofs.Rule.Overwriting

/-!
A rule as a sweep over a path.

Where it is known what the matches of a pattern are, a rule is a walk along the text: a match is
taken wherever there is one, and the walk goes on behind it.
-/

namespace StablePath

open Pattern Text

/-- A sweep along a text from left to right. At a match the text of the group becomes `r` of it;
where there is none, a character is kept. -/
inductive Sweeps (H : Hit → Prop) (N : List Char → Prop) (r : List Char → List Char) :
    (text out : List Char) → Prop
  | done : Sweeps H N r [] []
  | skip {c : Char} {text out : List Char} (none : N (c :: text)) (later : Sweeps H N r text out) :
      Sweeps H N r (c :: text) (c :: out)
  | hit {hit : Hit} {out : List Char} (found : H hit) (ne : hit.taken ≠ [])
      (later : Sweeps H N r hit.rest out) :
      Sweeps H N r hit.text (hit.lead ++ r hit.span ++ hit.tail ++ out)

namespace Sweeps

variable {H : Hit → Prop} {N : List Char → Prop} {r : List Char → List Char}

lemma inv {text out : List Char} (h : Sweeps H N r text out) :
    (text = [] ∧ out = []) ∨
    (∃ c text' out', text = c :: text' ∧ out = c :: out' ∧ N text ∧ Sweeps H N r text' out') ∨
    ∃ hit out', text = hit.text ∧ out = hit.lead ++ r hit.span ++ hit.tail ++ out' ∧ H hit ∧
      hit.taken ≠ [] ∧ Sweeps H N r hit.rest out' := by
  cases h with
  | done => exact Or.inl ⟨rfl, rfl⟩
  | skip none later => exact Or.inr (Or.inl ⟨_, _, _, rfl, rfl, none, later⟩)
  | hit found ne later => exact Or.inr (Or.inr ⟨_, _, rfl, rfl, found, ne, later⟩)

lemma eq_nil {out : List Char} (h : Sweeps H N r [] out) : out = [] := by
  rcases h.inv with ⟨-, rfl⟩ | ⟨c, _, _, hnil, -⟩ | ⟨hit, _, hnil, -, -, hne, -⟩
  · rfl
  · cases hnil
  · exact absurd (List.append_eq_nil_iff.mp hnil.symm).1 hne

lemma of_hit (hexact : Exact H N) {hit : Hit} {out : List Char} (hhit : H hit)
    (hne : hit.taken ≠ []) (h : Sweeps H N r hit.text out) :
    ∃ out', out = hit.lead ++ r hit.span ++ hit.tail ++ out' ∧ Sweeps H N r hit.rest out' := by
  rcases h.inv with ⟨hnil, -⟩ | ⟨c, text', out', -, -, hnone, -⟩ |
    ⟨other, out', htext, rfl, hother, -, later⟩
  · exact absurd (List.append_eq_nil_iff.mp hnil).1 hne
  · exact absurd hnone (hexact.none hit hhit)
  · obtain rfl := hexact.unique hit other hhit hother htext
    exact ⟨out', rfl, later⟩

lemma of_none (hexact : Exact H N) {c : Char} {text out : List Char} (hnone : N (c :: text))
    (h : Sweeps H N r (c :: text) out) : ∃ out', out = c :: out' ∧ Sweeps H N r text out' := by
  rcases h.inv with ⟨hnil, -⟩ | ⟨d, _, out', htext, rfl, -, later⟩ | ⟨hit, _, htext, -, hhit, -⟩
  · cases hnil
  · obtain ⟨rfl, rfl⟩ := List.cons.inj htext
    exact ⟨out', rfl, later⟩
  · exact absurd (htext ▸ hnone) (hexact.none hit hhit)

lemma refl {text : List Char} (h : ∀ rest, rest <:+ text → N rest) : Sweeps H N r text text := by
  induction text with
  | nil => exact .done
  | cons c text ih =>
    refine .skip (h _ List.suffix_rfl) (ih fun rest hrest => h rest ?_)
    exact hrest.trans (List.suffix_cons _ _)

/-- A text stays if every match in it writes what is there. -/
lemma eq_self {text out : List Char} (hr : ∀ hit, H hit → hit.text <:+ text → r hit.span = hit.span)
    (h : Sweeps H N r text out) : out = text := by
  induction h with
  | done => rfl
  | @skip c text out _ _ ih =>
    rw [ih fun hit found hsuffix => hr hit found (hsuffix.trans (List.suffix_cons c text))]
  | @hit hit out found _ _ ih =>
    have hrest : out = hit.rest := by
      refine ih fun other found' hsuffix => hr other found' (hsuffix.trans ?_)
      exact List.suffix_append hit.taken hit.rest
    rw [hrest, hr hit found List.suffix_rfl]
    rfl

end Sweeps

/-! ### Spans determine the outcome -/

lemma eq_of_width_eq {u v x y : List Char} (h : u ++ x = v ++ y) (hw : width u = width v) :
    u = v ∧ x = y := by
  have hu := splitAt?_width u x
  rw [h, hw, splitAt?_width] at hu
  obtain ⟨rfl, rfl⟩ := Prod.mk.inj (Option.some.inj hu)
  exact ⟨rfl, rfl⟩

lemma Overwrites.cons_inv {R : List Char → List Char → Prop} {offset a b : Nat}
    {spans : List (Nat × Nat)} {text out : List Char}
    (h : Overwrites R offset ((a, b) :: spans) text out) :
    ∃ kept old new text' out', text = kept ++ old ++ text' ∧ out = kept ++ new ++ out' ∧
      R old new ∧ a = offset + width kept ∧ b = a + width old ∧ Overwrites R b spans text' out' := by
  cases h with
  | span kept old new write later => exact ⟨kept, old, new, _, _, rfl, rfl, write, rfl, rfl, later⟩

lemma Overwrites.unique {r : List Char → List Char} {offset : Nat} {spans : List (Nat × Nat)}
    {text out out' : List Char} (h : Overwrites (fun old new => new = r old) offset spans text out)
    (h' : Overwrites (fun old new => new = r old) offset spans text out') : out = out' := by
  induction h generalizing out' with
  | rest =>
    cases h'
    rfl
  | @span offset spans text out kept old new hnew _ ih =>
    obtain ⟨kept', old', new', text', out', htext, rfl, hnew', ha, hb, later'⟩ := h'.cons_inv
    rw [List.append_assoc, List.append_assoc] at htext
    obtain ⟨rfl, hmore⟩ := eq_of_width_eq htext (by omega)
    obtain ⟨rfl, rfl⟩ := eq_of_width_eq hmore (by omega)
    rw [ih later', hnew, hnew']

/-! ### The matches of a pattern -/

namespace Pattern.Term

variable {t : Term} {g : Nat} {H : Hit → Prop} {N : List Char → Prop} {offset : Nat}

lemma found?_eq_none_of_matchAt? {last : Option Nat} {before : Option Char} {text : List Char}
    (h : t.matchAt? before offset text = none) : t.found? last before offset text = none := by
  rw [Option.eq_none_iff_forall_ne_some]
  rintro ⟨trail, stop⟩ hfound
  rw [(found?_eq_some_iff.mp hfound).2.1] at h
  cases h

lemma Finds.matchesFrom_eq_nil (ht : t.Finds g H N) {text : List Char}
    (h : ∀ hit, H hit → ¬ hit.text <:+ text) (last : Option Nat) (before : Option Char) :
    t.matchesFrom last before offset text = [] := by
  induction text generalizing last before offset with
  | nil =>
    rcases ht before offset [] with ⟨hnone, -⟩ | ⟨hit, trail, htext, hhit, -⟩
    · exact matchesFrom_of_not_found (found?_eq_none_of_matchAt? hnone)
    · exact absurd (htext ▸ List.suffix_rfl) (h hit hhit)
  | cons c text ih =>
    rcases ht before offset (c :: text) with ⟨hnone, -⟩ | ⟨hit, trail, htext, hhit, -⟩
    · rw [matchesFrom_of_not_found (found?_eq_none_of_matchAt? hnone), matchesAfter]
      exact ih (fun hit hhit hs => h hit hhit (hs.trans (List.suffix_cons c text))) _ _
    · exact absurd (htext ▸ List.suffix_rfl) (h hit hhit)

/-- Behind a match the search goes on at its end. -/
lemma exists_matchesFrom_of_hit {hit : Hit} {trail : Trail} {last : Option Nat}
    {before : Option Char} (hlast : last.all (· ≤ offset) = true)
    (hsome : t.matchAt? before offset hit.text = some trail) (hne : hit.taken ≠ [])
    (hstop : trail.lastClosed 0 = some (offset + width hit.taken)) :
    ∃ before', t.matchesFrom last before offset hit.text = trail ::
      t.matchesFrom (some (offset + width hit.taken)) before' (offset + width hit.taken) hit.rest := by
  have hfound : t.found? last before offset hit.text = some (trail, offset + width hit.taken) := by
    refine found?_eq_some_iff.mpr ⟨hlast, hsome, hstop, Or.inl ?_⟩
    obtain ⟨c, used, htaken⟩ := List.exists_cons_of_ne_nil hne
    have := c.utf8Size_pos
    rw [htaken, width_cons]
    omega
  obtain ⟨before', hnext⟩ := t.exists_matchesAfter_append hne hit.rest
  refine ⟨before', ?_⟩
  rw [matchesFrom_of_found hfound, Hit.text, hnext]

/-- The matches that are found from a place on are those of a sweep. -/
lemma Finds.exists_sweeps (ht : t.Finds g H N) (r : List Char → List Char) (last : Option Nat)
    (before : Option Char) (text : List Char) (hlast : last.all (· ≤ offset) = true) :
    ∃ out, Sweeps H N r text out ∧ Overwrites (fun old new => new = r old) offset
      ((t.matchesFrom last before offset text).filterMap fun trail => trail.span g) text out := by
  induction hn : text.length using Nat.strongRecOn generalizing last before offset text with
  | ind n ih =>
    rcases ht before offset text with ⟨hnone, hN⟩ | ⟨hit, trail, rfl, hhit, hsome, hne, hstop, hspan⟩
    · rw [matchesFrom_of_not_found (found?_eq_none_of_matchAt? hnone)]
      cases text with
      | nil => exact ⟨[], .done, .rest _ _⟩
      | cons c text =>
        obtain ⟨out, hsweep, hover⟩ := ih text.length (by simp [← hn]) last (some c) text
          (all_le_add c.utf8Size hlast) rfl
        exact ⟨c :: out, .skip hN hsweep, hover.keep [c]⟩
    · obtain ⟨before', hmatches⟩ := exists_matchesFrom_of_hit hlast hsome hne hstop
      have hshorter : hit.rest.length < n := by
        have hpos := List.length_pos_iff.mpr hne
        rw [← hn, Hit.text, List.length_append]
        omega
      obtain ⟨out, hsweep, hover⟩ := ih hit.rest.length hshorter
        (some (offset + width hit.taken)) before' hit.rest
        (show (some (offset + width hit.taken)).all (· ≤ offset + width hit.taken) = true by simp) rfl
      refine ⟨_, .hit hhit hne hsweep, ?_⟩
      rw [hmatches, List.filterMap_cons_some hspan]
      have hsum : offset + width hit.taken =
          offset + width hit.lead + width hit.span + width hit.tail := by
        simp [Hit.taken, Nat.add_assoc]
      rw [hsum] at hover ⊢
      have hlater := Overwrites.span hit.lead hit.span (r hit.span) rfl (hover.keep hit.tail)
      simpa [Hit.text, Hit.taken] using hlater

end Pattern.Term

namespace Rule

variable {rule : Rule} {H : Hit → Prop} {N : List Char → Prop}

lemma spans_matchesIn (rule : Rule) (path : List Char) :
    rule.spans (rule.matchesIn path) =
      (rule.pattern.term.matchesFrom none none 0 path).filterMap fun trail =>
        trail.span rule.edit.group := by
  have hgroup : rule.edit.group < rule.pattern.term.lastGroup + 1 := rule.group_lt
  unfold spans matchesIn Pattern.matchesIn Term.allMatches
  rw [List.filterMap_map]
  congr 1
  funext trail
  simp [List.getElem?_range hgroup]

lemma exists_hit_of_matchesIn {g : Nat} (h : rule.pattern.term.Finds g H N) {path : List Char}
    (hfound : rule.matchesIn path ≠ []) : ∃ hit, H hit ∧ hit.text <:+ path := by
  by_contra hno
  have hnone : rule.pattern.term.matchesFrom none none 0 path = [] :=
    h.matchesFrom_eq_nil (fun hit hhit hsuffix => hno ⟨hit, hhit, hsuffix⟩) none none
  refine hfound ?_
  unfold matchesIn Pattern.matchesIn Term.allMatches
  rw [hnone]
  rfl

/-- **A rule that is a candidate sweeps over the path.** -/
theorem reduce?_sweeps (h : rule.pattern.term.Finds rule.edit.group H N) {sighting : Sighting}
    {path : List Char} (hc : rule.isCandidate path sighting.filesystem = true) :
    ∃ reduction, rule.reduce? sighting path = some reduction ∧
      Sweeps H N (rule.edit.replacement sighting.pid) path reduction.path := by
  obtain ⟨reduction, hreduce, hover⟩ := reduce?_eq hc
  obtain ⟨out, hsweep, hover'⟩ :=
    h.exists_sweeps (rule.edit.replacement sighting.pid) none none path rfl
  rw [spans_matchesIn] at hover
  obtain rfl := hover.unique hover'
  exact ⟨reduction, hreduce, hsweep⟩

end Rule

end StablePath
