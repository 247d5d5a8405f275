import StablePath.Proofs.Pattern.Denotation
import StablePath.Proofs.Pattern.Order
import StablePath.Rule

/-!
The list of all matches.

The matches of a pattern in a path are listed from left to right. Each is a match, its groups lie in
it, and it comes behind the one before it. No match is left out except for those that begin in a
listed one or right at its end.
-/

namespace StablePath.Pattern

open Text

/-! ### Places of a path -/

/-- A place lies in a path. -/
def Place.In (path : List Char) (q : Place) : Prop := Place.Reaches ⟨none, 0, path⟩ q

/-- A byte offset at which a character of a path begins or the path ends. -/
def IsBoundary (path : List Char) (n : Nat) : Prop := ∃ q, Place.In path q ∧ q.offset = n

/-- A pattern matches the bytes of a path from an offset to another. -/
def MatchesBetween (p : Pattern) (path : List Char) (start stop : Nat) : Prop :=
  ∃ q r, Place.In path q ∧ p.term.Matches q r ∧ q.offset = start ∧ r.offset = stop

/-- A span begins behind the end of a match, or at it and is not empty. -/
def Follows (stop : Nat) (span : Nat × Nat) : Prop :=
  stop ≤ span.1 ∧ ¬ (span.1 = stop ∧ span.2 = stop)

/-- The groups of one match in a list of matches. -/
structure IsListed (p : Pattern) (path : List Char) (groups : Groups) (span : Nat × Nat) :
    Prop where
  length_eq : groups.length = p.groupCount
  whole : groups[0]? = some (some span)
  matched : MatchesBetween p path span.1 span.2
  bounds : ∀ g a b : Nat, groups[g]? = some (some (a, b)) →
    a ≤ b ∧ b ≤ width path ∧ IsBoundary path a ∧ IsBoundary path b
  inside : ∀ g a b : Nat, groups[g]? = some (some (a, b)) → span.1 ≤ a ∧ b ≤ span.2

lemma Place.In.le_width {path : List Char} {q : Place} (h : Place.In path q) :
    q.offset ≤ width path := by
  obtain ⟨used, rest, htext, rfl⟩ := h
  obtain rfl : path = used ++ rest := htext
  simp [Place.after]

/-! ### Matches from a place on -/

/-- A match that begins at a place or behind it, with its span. -/
structure Term.Found (t : Term) (p : Place) (trail : Trail) (span : Nat × Nat) : Prop where
  matched : ∃ q r, p.Reaches q ∧ t.Matches q r ∧ q.offset = span.1 ∧ r.offset = span.2
  whole : trail.span 0 = some span
  inside : ∀ g a b, trail.span g = some (a, b) → (span.1 ≤ a ∧ a ≤ b ∧ b ≤ span.2) ∧
    (∃ q, p.Reaches q ∧ q.offset = a) ∧ ∃ q, p.Reaches q ∧ q.offset = b

/-- Trails of matches, with their spans, that are all there are behind a match that ended at `last`:
every match that begins at one of the places `D` begins in one of the spans, or at its end. -/
structure Term.Lists (t : Term) (last : Option Nat) (p : Place) (D : Place → Prop)
    (trails : List Trail) (spans : List (Nat × Nat)) : Prop where
  found : List.Forall₂ (t.Found p) trails spans
  follows : ∀ span ∈ spans, p.offset ≤ span.1 ∧ ∀ l ∈ last, Follows l span
  le : ∀ span ∈ spans, span.1 ≤ span.2
  apart : spans.Pairwise fun m m' => Follows m.2 m'
  all : ∀ q r, D q → (∀ l ∈ last, l < q.offset) → t.Matches q r →
    ∃ span ∈ spans, span.1 ≤ q.offset ∧ q.offset ≤ span.2

/-- A place behind another. -/
def Place.Precedes (p q : Place) : Prop := p.Reaches q ∧ q.offset ≠ p.offset

section

variable {t : Term} {last : Option Nat} {p q : Place} {trails : List Trail} {trail : Trail}
  {spans : List (Nat × Nat)} {span : Nat × Nat}

lemma Term.Found.of_reaches (h : t.Found q trail span) (hq : p.Reaches q) :
    t.Found p trail span where
  matched := by
    obtain ⟨u, v, hu, hv⟩ := h.matched
    exact ⟨u, v, hq.trans hu, hv⟩
  whole := h.whole
  inside g a b hg := by
    obtain ⟨hle, ⟨u, hu, ha⟩, v, hv, hb⟩ := h.inside g a b hg
    exact ⟨hle, ⟨u, hq.trans hu, ha⟩, v, hq.trans hv, hb⟩

/-- The match that is found at a place. -/
lemma Term.found_of_matchAt? (ht : t.GroupsPos)
    (h : t.matchAt? p.before p.offset p.text = some trail) {stop : Nat}
    (hstop : trail.lastClosed 0 = some stop) : t.Found p trail (p.offset, stop) := by
  obtain ⟨used, rest, htext, hzero, hinside⟩ := Term.matchAt?_spans ht h
  obtain ⟨r, hr, hclosed⟩ := Term.exists_of_matchAt? h
  obtain rfl : r.offset = stop := Option.some.inj (hclosed.symm.trans hstop)
  have hend : r.offset = p.offset + width used := by
    have hclosed' := (Trail.span_eq_some_iff.mp hzero).1
    exact Option.some.inj (hclosed.symm.trans hclosed')
  refine ⟨⟨p, r, .refl p, hr, rfl, rfl⟩, by rw [hzero, hend], fun g a b hg => ?_⟩
  obtain ⟨x, y, z, rfl, rfl, rfl⟩ := hinside g a b hg
  have hx : p.text = x ++ (y ++ z ++ rest) := by simp [← htext]
  have hxy : p.text = x ++ y ++ (z ++ rest) := by simp [← htext]
  rw [hend]
  simp only [width_append]
  refine ⟨by omega, ⟨_, ⟨x, _, hx, rfl⟩, rfl⟩, _, ⟨x ++ y, _, hxy, rfl⟩, ?_⟩
  simp [Place.after, Nat.add_assoc]

lemma Term.Lists.hit {stop : Nat} (hfirst : t.Found p trail (p.offset, stop))
    (hlast : ∀ l ∈ last, Follows l (p.offset, stop))
    (h : t.Lists (some stop) p p.Precedes trails spans) :
    t.Lists last p p.Reaches (trail :: trails) ((p.offset, stop) :: spans) := by
  have hle : p.offset ≤ stop := by
    obtain ⟨q, r, -, hr, hq, hstop⟩ := hfirst.matched
    have hqr := hr.reaches.le
    rwa [hq, hstop] at hqr
  refine ⟨.cons hfirst h.found, ?_, List.forall_mem_cons.mpr ⟨hle, h.le⟩, ?_,
    fun q r hq hafter hr => ?_⟩
  · refine List.forall_mem_cons.mpr ⟨⟨Nat.le_refl _, hlast⟩, fun later hlater => ?_⟩
    obtain ⟨hoffset, hfollows⟩ := h.follows later hlater
    refine ⟨hoffset, fun l hl => ?_⟩
    obtain ⟨hstop, hne⟩ := hfollows stop rfl
    obtain ⟨hl, -⟩ := hlast l hl
    dsimp only at hl hstop hne
    exact ⟨by omega, fun hsame => hne (by omega)⟩
  · exact List.pairwise_cons.mpr ⟨fun later hlater => (h.follows later hlater).2 stop rfl, h.apart⟩
  · by_cases hbehind : stop < q.offset
    · obtain ⟨later, hlater, hin⟩ := h.all q r ⟨hq, by omega⟩ (by simpa using hbehind) hr
      exact ⟨later, List.mem_cons_of_mem _ hlater, hin⟩
    · exact ⟨_, List.mem_cons_self, hq.le, Nat.le_of_not_lt hbehind⟩

lemma Term.Lists.skip (hno : (∀ l ∈ last, l < p.offset) → ∀ r, ¬ t.Matches p r)
    (h : t.Lists last p p.Precedes trails spans) : t.Lists last p p.Reaches trails spans := by
  refine ⟨h.found, h.follows, h.le, h.apart, fun q r hq hafter hr => ?_⟩
  by_cases hoffset : q.offset = p.offset
  · obtain rfl := hq.eq hoffset
    exact absurd hr (hno hafter r)
  · exact h.all q r ⟨hq, hoffset⟩ hafter hr

/-- One step of the search: it finds a match at the place, or there is none to find. -/
lemma Term.exists_lists_of_after (ht : t.GroupsPos) (p : Place)
    (hafter : ∀ last, ∃ spans,
      t.Lists last p p.Precedes (t.matchesAfter last p.offset p.text) spans)
    (last : Option Nat) :
    ∃ spans, t.Lists last p p.Reaches (t.matchesFrom last p.before p.offset p.text) spans := by
  cases hfound : t.found? last p.before p.offset p.text with
  | some found =>
    obtain ⟨trail, stop⟩ := found
    obtain ⟨hle, hmatch, hstop, hne⟩ := Term.found?_eq_some_iff.mp hfound
    obtain ⟨spans, h⟩ := hafter (some stop)
    rw [Term.matchesFrom_of_found hfound]
    refine ⟨(p.offset, stop) :: spans, .hit (Term.found_of_matchAt? ht hmatch hstop) ?_ h⟩
    rintro l rfl
    simp only [Option.all_some, decide_eq_true_eq] at hle
    refine ⟨hle, fun ⟨hstart, hend⟩ => ?_⟩
    obtain rfl : p.offset = l := hstart
    exact hne.elim (fun hno => hno hend) fun hno => hno rfl
  | none =>
    obtain ⟨spans, h⟩ := hafter last
    rw [Term.matchesFrom_of_not_found hfound]
    refine ⟨spans, .skip (fun hlast r hr => ?_) h⟩
    -- a match that is not found here begins right at the end of the last one
    cases hmatch : t.matchAt? p.before p.offset p.text with
    | none => exact Term.matchAt?_eq_none_iff.mp hmatch r hr
    | some trail =>
      obtain ⟨q, -, hstop⟩ := Term.exists_of_matchAt? hmatch
      refine Option.some_ne_none _ ((Term.found?_eq_some_iff.mpr ⟨?_, hmatch, hstop, ?_⟩).symm.trans
        hfound)
      · cases last with
        | none => rfl
        | some l => simpa using Nat.le_of_lt (hlast l rfl)
      · refine Or.inr fun hsame => ?_
        exact absurd (hlast _ hsame) (Nat.lt_irrefl _)

lemma Term.exists_lists (ht : t.GroupsPos) (text : List Char) (before : Option Char) (offset : Nat)
    (last : Option Nat) : ∃ spans, t.Lists last ⟨before, offset, text⟩
      (Place.Reaches ⟨before, offset, text⟩) (t.matchesFrom last before offset text) spans := by
  induction text generalizing before offset last with
  | nil =>
    refine Term.exists_lists_of_after ht ⟨before, offset, []⟩ (fun last => ⟨[], .nil, by simp,
      by simp, .nil, fun q r hq => ?_⟩) last
    obtain ⟨⟨used, rest, htext, rfl⟩, hne⟩ := hq
    obtain ⟨rfl, -⟩ := List.append_eq_nil_iff.mp htext.symm
    exact absurd rfl hne
  | cons c text ih =>
    refine Term.exists_lists_of_after ht ⟨before, offset, c :: text⟩ (fun last => ?_) last
    obtain ⟨spans, h⟩ := ih (some c) (offset + c.utf8Size) last
    have hnext := Place.Reaches.cons before offset c text
    refine ⟨spans, h.found.imp fun _ _ hfound => hfound.of_reaches hnext, fun span hspan => ?_,
      h.le, h.apart, fun q r hq => h.all q r ?_⟩
    · obtain ⟨hoffset, hfollows⟩ := h.follows span hspan
      exact ⟨Nat.le_trans (Nat.le_add_right _ _) hoffset, hfollows⟩
    · obtain ⟨⟨used, rest, htext, rfl⟩, hne⟩ := hq
      cases used with
      | nil => exact absurd rfl hne
      | cons d used =>
        obtain ⟨rfl, hsplit⟩ := List.cons.inj htext
        exact ⟨used, rest, hsplit, Place.after_cons ..⟩

end

/-! ### Matches in a path -/

lemma isListed_of_found {p : Pattern} {path : List Char} {trail : Trail} {span : Nat × Nat}
    (h : p.term.Found ⟨none, 0, path⟩ trail span) :
    IsListed p path (p.term.groupsIn trail) span where
  length_eq := by simp [Term.groupsIn, Pattern.groupCount]
  whole := by rw [Term.groupsIn_zero, h.whole]
  matched := h.matched
  bounds g a b hg := by
    obtain ⟨⟨-, hle, -⟩, ⟨q, hq, rfl⟩, r, hr, rfl⟩ := h.inside g a b (Term.groupsIn_eq_some hg)
    exact ⟨hle, Place.In.le_width hr, ⟨q, hq, rfl⟩, r, hr, rfl⟩
  inside g a b hg := by
    obtain ⟨⟨hstart, -, hstop⟩, -⟩ := h.inside g a b (Term.groupsIn_eq_some hg)
    exact ⟨hstart, hstop⟩

/-- **All matches are listed, from left to right.** A listed match has a span for each group of the
pattern that took part, between two characters of the path and inside the span of the whole match.
The next one begins no sooner than it ends, and is not empty if it begins right there, so the spans
increase strictly. Every match there is begins in a listed one or at its end: none begins before the
first, between the end of one and the start of the next, or behind the end of the last. -/
theorem matchesIn_lists_all (rule : Rule) (path : List Char) : ∃ spans : List (Nat × Nat),
    List.Forall₂ (IsListed rule.pattern path) (rule.matchesIn path) spans ∧
    (spans.Pairwise fun m m' => Follows m.2 m') ∧
    (spans.Pairwise fun m m' => m.1 < m'.1 ∨ m.1 = m'.1 ∧ m.2 < m'.2) ∧
    ∀ start stop, MatchesBetween rule.pattern path start stop →
      ∃ span ∈ spans, span.1 ≤ start ∧ start ≤ span.2 := by
  have hpos := Reader.groupsPos_of_read rule.pattern.reads
  obtain ⟨spans, h⟩ := Term.exists_lists hpos path none 0 none
  have hlisted : List.Forall₂ (IsListed rule.pattern path) (rule.matchesIn path) spans :=
    List.forall₂_map_left_iff.mpr (h.found.imp fun _ _ => isListed_of_found)
  refine ⟨spans, hlisted, h.apart, ?_, ?_⟩
  · refine h.apart.imp_of_mem fun {m m'} hm hm' hfollows => ?_
    obtain ⟨hstop, hne⟩ := hfollows
    have hle := h.le m hm
    have hle' := h.le m' hm'
    omega
  · rintro _ _ ⟨q, r, hq, hr, rfl, rfl⟩
    exact h.all q r hq (by simp) hr

/-- An empty match right behind another one is not listed. -/
example : (Pattern.read? "a*").map (·.matchesIn "baac".toList) =
    some [[some (0, 0)], [some (1, 3)], [some (4, 4)]] := by
  decide +kernel

end StablePath.Pattern
