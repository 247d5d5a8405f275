import StablePath.Proofs.Pattern.Steps

/-!
What a term matches.

`Term.Matches` says between which places a term matches, without saying how a match is searched
for. The walk of a thread is measured by it: from a place the walk ends where the term matches, and
it does end if the term matches at all. An empty iteration of a loop is walked at most once, which
loses nothing since the loop is then where it has been before.
-/

namespace StablePath.Pattern

open Text

/-! ### Places in a row -/

/-- A place lies in the same text as another, at it or behind it. -/
def Place.Reaches (p q : Place) : Prop :=
  ∃ used rest, p.text = used ++ rest ∧ q = .after p.before p.offset used rest

namespace Place.Reaches

variable {p q r : Place}

lemma refl (p : Place) : p.Reaches p := ⟨[], p.text, rfl, rfl⟩

lemma cons (before : Option Char) (offset : Nat) (c : Char) (text : List Char) :
    Place.Reaches ⟨before, offset, c :: text⟩ ⟨some c, offset + c.utf8Size, text⟩ :=
  ⟨[c], text, rfl, rfl⟩

lemma trans (hpq : p.Reaches q) (hqr : q.Reaches r) : p.Reaches r := by
  obtain ⟨u, rest, hp, rfl⟩ := hpq
  obtain ⟨v, rest', hq, rfl⟩ := hqr
  obtain rfl : rest = v ++ rest' := hq
  exact ⟨u ++ v, rest', by rw [hp, List.append_assoc], Place.after_after ..⟩

lemma le (h : p.Reaches q) : p.offset ≤ q.offset := by
  obtain ⟨used, rest, -, rfl⟩ := h
  exact Nat.le_add_right _ _

/-- Without a character taken, it is the same place. -/
lemma eq (h : p.Reaches q) (hoffset : q.offset = p.offset) : q = p := by
  obtain ⟨used, rest, htext, rfl⟩ := h
  cases used with
  | nil =>
    obtain ⟨before, offset, text⟩ := p
    obtain rfl : text = rest := htext
    rfl
  | cons c used =>
    have := c.utf8Size_pos
    simp only [Place.after, width_cons] at hoffset
    omega

lemma length_lt (h : p.Reaches q) (hoffset : q.offset ≠ p.offset) :
    q.text.length < p.text.length := by
  obtain ⟨used, rest, htext, rfl⟩ := h
  cases used with
  | nil => exact absurd rfl hoffset
  | cons c used =>
    rw [htext]
    simp only [Place.after, List.length_append, List.length_cons]
    omega

end Place.Reaches

/-! ### Matches -/

/-- So many steps of a relation lead from one place to another. -/
def Repeats (step : Place → Place → Prop) : Nat → Place → Place → Prop
  | 0, p, q => p = q
  | n + 1, p, r => ∃ q, step p q ∧ Repeats step n q r

/-- A term matches the text between two places. A repetition that is bounded goes round no more
often than its bound, or than it has to. -/
def Term.Matches : Term → Place → Place → Prop
  | empty, p, q => p = q
  | oneOf s, p, q => p.read [s] = some q
  | look l, p, q => l.holds p.before p.text.head? = true ∧ p = q
  | group _ t, p, q => t.Matches p q
  | cat a b, p, r => ∃ q, a.Matches p q ∧ b.Matches q r
  | alt a b, p, q => a.Matches p q ∨ b.Matches p q
  | times lo hi _ t, p, q => ∃ n, lo ≤ n ∧ (∀ m ∈ hi, n ≤ max lo m) ∧ Repeats t.Matches n p q

lemma Repeats.reaches {step : Place → Place → Prop} (hstep : ∀ p q, step p q → p.Reaches q)
    {n : Nat} {p q : Place} (h : Repeats step n p q) : p.Reaches q := by
  induction n generalizing p with
  | zero => exact h ▸ .refl p
  | succ n ih =>
    obtain ⟨r, hr, hmore⟩ := h
    exact (hstep p r hr).trans (ih hmore)

lemma Term.Matches.reaches {t : Term} {p q : Place} (h : t.Matches p q) : p.Reaches q := by
  induction t generalizing p q with
  | empty => exact h ▸ .refl p
  | oneOf s =>
    obtain ⟨used, rest, htext, -, hq⟩ := Place.read_eq_some_iff.mp h
    exact ⟨used, rest, htext, hq⟩
  | look l => exact h.2 ▸ .refl p
  | group _ t ih => exact ih h
  | cat a b iha ihb =>
    obtain ⟨r, hr, hmore⟩ := h
    exact (iha hr).trans (ihb hmore)
  | alt a b iha ihb => exact h.elim iha ihb
  | times lo hi greedy t ih =>
    obtain ⟨n, -, -, hn⟩ := h
    exact hn.reaches fun _ _ => ih

section

variable {t : Term} {lo : Nat} {hi : Option Nat} {greedy : Bool} {n : Nat} {p q r : Place}

/-- Empty iterations in front change nothing. -/
lemma Repeats.exists_first (h : Repeats t.Matches n p q) :
    q = p ∨ ∃ r m, t.Matches p r ∧ r.offset ≠ p.offset ∧ Repeats t.Matches m r q := by
  induction n with
  | zero => exact Or.inl h.symm
  | succ n ih =>
    obtain ⟨r, hr, hmore⟩ := h
    by_cases hoffset : r.offset = p.offset
    · exact ih (hr.reaches.eq hoffset ▸ hmore)
    · exact Or.inr ⟨r, n, hr, hoffset, hmore⟩

lemma Term.Matches.more (hfirst : t.Matches p q)
    (h : (Term.times lo (hi.map (· - 1)) greedy t).Matches q r) :
    (Term.times (lo + 1) hi greedy t).Matches p r := by
  obtain ⟨n, hlo, hhi, hn⟩ := h
  refine ⟨n + 1, Nat.succ_le_succ hlo, fun m hm => ?_, q, hfirst, hn⟩
  have := hhi (m - 1) (Option.mem_map_of_mem _ hm)
  omega

end

/-! ### Frames behind a match -/

/-- What a stack of frames has become at a later place: it hears of the characters taken. -/
def onward (p q : Place) (rest : List Frame) : List Frame :=
  if q.offset = p.offset then rest else rest.map Frame.move

section

variable {p q r : Place} {rest : List Frame}

@[simp] lemma onward_self (p : Place) (rest : List Frame) : onward p p rest = rest := if_pos rfl

lemma onward_of_ne (h : q.offset ≠ p.offset) : onward p q rest = rest.map Frame.move := if_neg h

lemma onward_run (t : Term) : onward p q (.run t :: rest) = .run t :: onward p q rest := by
  unfold onward
  split_ifs <;> rfl

lemma onward_close (g : Nat) : onward p q (.close g :: rest) = .close g :: onward p q rest := by
  unfold onward
  split_ifs <;> rfl

lemma still_map_move (rest : List Frame) : Still (rest.map Frame.move) := by
  have hmove : ∀ f : Frame, f.move.move = f.move := fun f => by cases f <;> rfl
  simp [Still, hmove]

lemma Still.onward (h : Still rest) (p q : Place) : onward p q rest = rest := by
  unfold Pattern.onward
  split_ifs
  · rfl
  · exact h

lemma onward_onward (hpq : p.Reaches q) (hqr : q.Reaches r) :
    onward q r (onward p q rest) = onward p r rest := by
  have hle := hpq.le
  have hle' := hqr.le
  by_cases hq : q.offset = p.offset
  · have hsame : onward p q rest = rest := if_pos hq
    rw [hsame, onward, onward, hq]
  · have hr : r.offset ≠ p.offset := by omega
    rw [onward_of_ne hq, onward_of_ne hr, (still_map_move rest).onward]

end

lemma onward_oneOf {s : CharSet} {p q : Place} {rest : List Frame} (h : p.read [s] = some q) :
    onward p q rest = rest.map Frame.move := by
  obtain ⟨before, offset, text⟩ := p
  obtain ⟨used, more, -, hused, rfl⟩ := Place.read_eq_some_iff.mp h
  refine onward_of_ne ?_
  cases hused with
  | @cons _ c _ used _ _ =>
    have := c.utf8Size_pos
    simp only [Place.after, width_cons]
    omega

namespace Thread

variable {thread next more leave : Thread} {t : Term} {rest : List Frame} {trail out : Trail}
  {greedy : Bool} {p q : Place}

/-- The frames that a thread has still to match decide whether it can be finished. -/
lemma isSome_firstAt?_congr {frames : List Frame} (trail trail' : Trail)
    (h : (firstAt? ⟨frames, trail⟩ p).isSome) : (firstAt? ⟨frames, trail'⟩ p).isSome := by
  rw [Option.isSome_iff_ne_none] at h ⊢
  have htodo : (⟨frames, trail⟩ : Thread).todo = (⟨frames, trail'⟩ : Thread).todo := rfl
  exact fun hnone => h (first?_eq_none_of_todo_eq htodo hnone)

lemma firstAt?_look (l : Look) : firstAt? ⟨.run (.look l) :: rest, trail⟩ p =
    if l.holds p.before p.text.head? = true then firstAt? ⟨rest, trail⟩ p else none := by
  split_ifs with hl
  · exact first?_of_go (by simp [move, hl])
  · exact first?_of_stop (by simp [move, hl])

/-- A loop goes round once more or is left, whichever is preferred. -/
lemma eq_some_of_loop (hmove : thread.move ⟨p.before, p.offset, p.text.head?⟩ =
      .loop greedy more leave) (h : thread.firstAt? p = some out) :
    more.firstAt? p = some out ∨ leave.firstAt? p = some out := by
  cases greedy with
  | true =>
    rw [firstAt?, first?_of_fork hmove, Option.orElse_eq_orElse, Option.orElse_eq_or,
      Option.or_eq_some_iff] at h
    exact h.imp_right And.right
  | false =>
    rw [firstAt?, first?_of_fork hmove, Option.orElse_eq_orElse, Option.orElse_eq_or,
      Option.or_eq_some_iff] at h
    exact h.symm.imp_left And.right

lemma isSome_of_loop (hmove : thread.move ⟨p.before, p.offset, p.text.head?⟩ =
      .loop greedy more leave) (h : (more.firstAt? p).isSome ∨ (leave.firstAt? p).isSome) :
    (thread.firstAt? p).isSome := by
  cases greedy with
  | true =>
    rw [firstAt?, first?_of_fork hmove, Option.orElse_eq_orElse, Option.orElse_eq_or,
      Option.isSome_or, Bool.or_eq_true]
    exact h
  | false =>
    rw [firstAt?, first?_of_fork hmove, Option.orElse_eq_orElse, Option.orElse_eq_or,
      Option.isSome_or, Bool.or_eq_true]
    exact h.symm

/-- One of the iterations that a loop cannot be left before. -/
lemma firstAt?_iteration {lo : Nat} {hi : Option Nat} (h : ¬ (lo = 0 ∧ hi = none)) :
    firstAt? ⟨.run (.times (lo + 1) hi greedy t) :: rest, trail⟩ p =
      firstAt? ⟨.run t :: .run (.times lo (hi.map (· - 1)) greedy t) :: rest, trail⟩ p := by
  cases lo with
  | zero =>
    cases hi with
    | none => exact absurd ⟨rfl, rfl⟩ h
    | some m => exact first?_of_go rfl
  | succ lo => exact first?_of_go rfl

/-! ### Soundness -/

/-- Where a thread with the term on top is finished, the term has matched up to some place, and the
rest was finished from there. -/
def Sound (t : Term) : Prop :=
  ∀ rest trail p out, firstAt? ⟨.run t :: rest, trail⟩ p = some out →
    ∃ q trail', t.Matches p q ∧ firstAt? ⟨onward p q rest, trail'⟩ q = some out

lemma Sound.again (ht : Sound t) (hrest : Still rest)
    (h : firstAt? ⟨.again .moved greedy t :: rest, trail⟩ p = some out) :
    ∃ n q trail', Repeats t.Matches n p q ∧ firstAt? ⟨rest, trail'⟩ q = some out := by
  induction hlen : p.text.length using Nat.strongRecOn generalizing p trail with
  | ind len ih =>
    rcases eq_some_of_loop rfl h with hmore | hleave
    · obtain ⟨q, trail', hq, hnext⟩ := ht _ _ _ _ hmore
      by_cases hoffset : q.offset = p.offset
      · -- an idle iteration goes nowhere
        rw [hq.reaches.eq hoffset, onward_self, firstAt?, first?_of_stop rfl] at hnext
        cases hnext
      · rw [onward_of_ne hoffset, List.map_cons, hrest] at hnext
        obtain ⟨n, r, trail'', hn, hlast⟩ :=
          ih q.text.length (hlen ▸ hq.reaches.length_lt hoffset) hnext rfl
        exact ⟨n + 1, r, trail'', ⟨q, hq, hn⟩, hlast⟩
    · exact ⟨0, p, trail, rfl, hleave⟩

/-- The first iteration of an unbounded loop, and what follows it. -/
lemma Sound.opening (ht : Sound t)
    (h : firstAt? ⟨.run t :: .again .opening greedy t :: rest, trail⟩ p = some out) :
    ∃ n q trail', Repeats t.Matches (n + 1) p q ∧
      firstAt? ⟨onward p q rest, trail'⟩ q = some out := by
  obtain ⟨q, trail', hq, hnext⟩ := ht _ _ _ _ h
  by_cases hoffset : q.offset = p.offset
  · obtain rfl := hq.reaches.eq hoffset
    rw [onward_self, firstAt?, first?_of_go rfl] at hnext
    exact ⟨0, q, trail', ⟨q, hq, rfl⟩, by rwa [onward_self]⟩
  · rw [onward_of_ne hoffset, List.map_cons] at hnext
    obtain ⟨n, r, trail'', hn, hlast⟩ := ht.again (still_map_move rest) hnext
    have hr : r.offset ≠ p.offset := by
      have := hq.reaches.le
      have := (hn.reaches fun _ _ => Term.Matches.reaches).le
      omega
    exact ⟨n, r, trail'', ⟨q, hq, hn⟩, by rwa [onward_of_ne hr]⟩

/-- An iteration that has to be made, or may be made, and the iterations after it. -/
lemma Sound.iteration {u : Term} (ht : Sound t) (hu : Sound u)
    (h : firstAt? ⟨.run t :: .run u :: rest, trail⟩ p = some out) :
    ∃ q r trail', t.Matches p q ∧ u.Matches q r ∧
      firstAt? ⟨onward p r rest, trail'⟩ r = some out := by
  obtain ⟨q, trail', hq, hnext⟩ := ht _ _ _ _ h
  rw [onward_run] at hnext
  obtain ⟨r, trail'', hr, hlast⟩ := hu _ _ _ _ hnext
  rw [onward_onward hq.reaches hr.reaches] at hlast
  exact ⟨q, r, trail'', hq, hr, hlast⟩

lemma Sound.times_upTo (ht : Sound t) (m : Nat) (greedy : Bool) :
    Sound (.times 0 (some m) greedy t) := by
  induction m with
  | zero =>
    intro rest trail p out h
    rw [firstAt?_times_zero] at h
    exact ⟨p, trail, ⟨0, Nat.le_refl 0, by simp, rfl⟩, by rwa [onward_self]⟩
  | succ m ih =>
    intro rest trail p out h
    rcases eq_some_of_loop rfl h with hmore | hleave
    · obtain ⟨q, r, trail', hq, ⟨n, -, hn, hr⟩, hlast⟩ := ht.iteration ih hmore
      have hle := hn m rfl
      refine ⟨r, trail', ⟨n + 1, Nat.zero_le _, fun k hk => ?_, q, hq, hr⟩, hlast⟩
      obtain rfl := Option.some.inj hk
      omega
    · exact ⟨p, trail, ⟨0, Nat.le_refl 0, by simp, rfl⟩, by rwa [onward_self]⟩

lemma Sound.times_any (ht : Sound t) (greedy : Bool) : Sound (.times 0 none greedy t) := by
  intro rest trail p out h
  rcases eq_some_of_loop rfl h with hmore | hleave
  · obtain ⟨n, q, trail', hn, hlast⟩ := ht.opening hmore
    exact ⟨q, trail', ⟨n + 1, Nat.zero_le _, by simp, hn⟩, hlast⟩
  · exact ⟨p, trail, ⟨0, Nat.le_refl 0, by simp, rfl⟩, by rwa [onward_self]⟩

lemma Sound.times (ht : Sound t) (lo : Nat) (hi : Option Nat) (greedy : Bool) :
    Sound (.times lo hi greedy t) := by
  induction lo generalizing hi with
  | zero =>
    cases hi with
    | none => exact ht.times_any greedy
    | some m => exact ht.times_upTo m greedy
  | succ lo ih =>
    intro rest trail p out h
    by_cases hone : lo = 0 ∧ hi = none
    · obtain ⟨rfl, rfl⟩ := hone
      rw [firstAt?, first?_of_go rfl] at h
      obtain ⟨n, q, trail', hn, hlast⟩ := ht.opening h
      exact ⟨q, trail', ⟨n + 1, Nat.succ_le_succ (Nat.zero_le n), by simp, hn⟩, hlast⟩
    · rw [firstAt?_iteration hone] at h
      obtain ⟨q, r, trail', hq, hr, hlast⟩ := ht.iteration (ih _) h
      exact ⟨r, trail', hq.more hr, hlast⟩

theorem sound (t : Term) : Sound t := by
  induction t with
  | empty =>
    intro rest trail p out h
    rw [firstAt?_empty] at h
    exact ⟨p, trail, rfl, by rwa [onward_self]⟩
  | oneOf s =>
    intro rest trail p out h
    rw [firstAt?_take] at h
    obtain ⟨q, hq, hlast⟩ := Option.bind_eq_some_iff.mp h
    exact ⟨q, trail, hq, by rwa [onward_oneOf hq]⟩
  | look l =>
    intro rest trail p out h
    rw [firstAt?_look] at h
    split_ifs at h with hl
    exact ⟨p, trail, ⟨hl, rfl⟩, by rwa [onward_self]⟩
  | group g t ih =>
    intro rest trail p out h
    rw [firstAt?_group] at h
    obtain ⟨q, trail', hq, hlast⟩ := ih _ _ _ _ h
    rw [onward_close, firstAt?_close] at hlast
    exact ⟨q, _, hq, hlast⟩
  | cat a b iha ihb =>
    intro rest trail p out h
    rw [firstAt?_cat] at h
    obtain ⟨q, r, trail', hq, hr, hlast⟩ := iha.iteration ihb h
    exact ⟨r, trail', ⟨q, hq, hr⟩, hlast⟩
  | alt a b iha ihb =>
    intro rest trail p out h
    rw [firstAt?_alt, Option.orElse_eq_orElse, Option.orElse_eq_or, Option.or_eq_some_iff] at h
    rcases h with h | ⟨-, h⟩
    · obtain ⟨q, trail', hq, hlast⟩ := iha _ _ _ _ h
      exact ⟨q, trail', Or.inl hq, hlast⟩
    · obtain ⟨q, trail', hq, hlast⟩ := ihb _ _ _ _ h
      exact ⟨q, trail', Or.inr hq, hlast⟩
  | times lo hi greedy t ih => exact ih.times lo hi greedy

/-! ### Completeness -/

/-- Where the term matches up to a place from which the rest can be finished, a thread with the term
on top can be finished. -/
def Complete (t : Term) : Prop :=
  ∀ rest trail p q, t.Matches p q → (firstAt? ⟨onward p q rest, trail⟩ q).isSome →
    (firstAt? ⟨.run t :: rest, trail⟩ p).isSome

lemma Complete.again (ht : Complete t) (hrest : Still rest) {n : Nat}
    (hn : Repeats t.Matches n p q) (h : (firstAt? ⟨rest, trail⟩ q).isSome) :
    (firstAt? ⟨.again .moved greedy t :: rest, trail⟩ p).isSome := by
  induction n generalizing p with
  | zero =>
    obtain rfl := hn
    exact isSome_of_loop rfl (Or.inr h)
  | succ n ih =>
    obtain ⟨r, hr, hmore⟩ := hn
    by_cases hoffset : r.offset = p.offset
    · exact ih (hr.reaches.eq hoffset ▸ hmore)
    · refine isSome_of_loop rfl (Or.inl (ht _ _ _ r hr ?_))
      rw [onward_of_ne hoffset, List.map_cons, hrest]
      exact ih hmore

/-- An iteration that takes a character, and what follows it, in an unbounded loop. -/
lemma Complete.opening (ht : Complete t) {n : Nat} (hn : Repeats t.Matches (n + 1) p q)
    (h : (firstAt? ⟨onward p q rest, trail⟩ q).isSome) :
    (firstAt? ⟨.run t :: .again .opening greedy t :: rest, trail⟩ p).isSome := by
  rcases hn.exists_first with rfl | ⟨r, m, hr, hoffset, hmore⟩
  · -- all iterations are empty, and one is enough
    obtain ⟨r, hr, hmore⟩ := hn
    have hback := (hmore.reaches fun _ _ => Term.Matches.reaches).le
    obtain rfl := hr.reaches.eq (Nat.le_antisymm hback hr.reaches.le)
    refine ht _ _ _ _ hr ?_
    rw [onward_self] at h ⊢
    rwa [firstAt?, first?_of_go rfl]
  · have hq : q.offset ≠ p.offset := by
      have := hr.reaches.le
      have := (hmore.reaches fun _ _ => Term.Matches.reaches).le
      omega
    refine ht _ _ _ r hr ?_
    rw [onward_of_ne hoffset, List.map_cons]
    rw [onward_of_ne hq] at h
    exact ht.again (still_map_move rest) hmore h

lemma Complete.iteration {u : Term} (ht : Complete t) (hu : Complete u) {r : Place}
    (hq : t.Matches p q) (hr : u.Matches q r)
    (h : (firstAt? ⟨onward p r rest, trail⟩ r).isSome) :
    (firstAt? ⟨.run t :: .run u :: rest, trail⟩ p).isSome := by
  refine ht _ _ _ q hq ?_
  rw [onward_run]
  refine hu _ _ _ r hr ?_
  rwa [onward_onward hq.reaches hr.reaches]

lemma Complete.times_upTo (ht : Complete t) (m : Nat) (greedy : Bool) :
    Complete (.times 0 (some m) greedy t) := by
  induction m with
  | zero =>
    rintro rest trail p q ⟨n, -, hhi, hn⟩ h
    obtain rfl : n = 0 := Nat.le_zero.mp (hhi 0 rfl)
    obtain rfl := hn
    rwa [firstAt?_times_zero, ← onward_self p rest]
  | succ m ih =>
    rintro rest trail p q ⟨n, -, hhi, hn⟩ h
    cases n with
    | zero =>
      obtain rfl := hn
      rw [onward_self] at h
      exact isSome_of_loop rfl (Or.inr h)
    | succ n =>
      obtain ⟨r, hr, hmore⟩ := hn
      have hle := hhi (m + 1) rfl
      refine isSome_of_loop rfl (Or.inl (ht.iteration ih hr ⟨n, Nat.zero_le n, ?_, hmore⟩ h))
      intro k hk
      obtain rfl := Option.some.inj hk
      omega

lemma Complete.times_any (ht : Complete t) (greedy : Bool) :
    Complete (.times 0 none greedy t) := by
  rintro rest trail p q ⟨n, -, -, hn⟩ h
  cases n with
  | zero =>
    obtain rfl := hn
    rw [onward_self] at h
    exact isSome_of_loop rfl (Or.inr h)
  | succ n => exact isSome_of_loop rfl (Or.inl (ht.opening hn h))

lemma Complete.times (ht : Complete t) (lo : Nat) (hi : Option Nat) (greedy : Bool) :
    Complete (.times lo hi greedy t) := by
  induction lo generalizing hi with
  | zero =>
    cases hi with
    | none => exact ht.times_any greedy
    | some m => exact ht.times_upTo m greedy
  | succ lo ih =>
    rintro rest trail p q ⟨n, hlo, hhi, hn⟩ h
    obtain ⟨n, rfl⟩ : ∃ k, n = k + 1 := ⟨n - 1, by omega⟩
    by_cases hone : lo = 0 ∧ hi = none
    · obtain ⟨rfl, rfl⟩ := hone
      rw [firstAt?, first?_of_go rfl]
      exact ht.opening hn h
    · rw [firstAt?_iteration hone]
      obtain ⟨r, hr, hmore⟩ := hn
      refine ht.iteration (ih _) hr ⟨n, Nat.le_of_succ_le_succ hlo, fun k hk => ?_, hmore⟩ h
      obtain ⟨m, hm, rfl⟩ := Option.map_eq_some_iff.mp hk
      have := hhi m hm
      omega

theorem complete (t : Term) : Complete t := by
  induction t with
  | empty =>
    rintro rest trail p q rfl h
    rwa [firstAt?_empty, ← onward_self p rest]
  | oneOf s =>
    intro rest trail p q hq h
    rw [onward_oneOf hq] at h
    rw [firstAt?_take, show p.read [s] = some q from hq]
    exact h
  | look l =>
    rintro rest trail p q ⟨hl, rfl⟩ h
    rwa [firstAt?_look, if_pos hl, ← onward_self p rest]
  | group g t ih =>
    intro rest trail p q hq h
    rw [firstAt?_group]
    refine ih _ _ _ q hq ?_
    rw [onward_close, firstAt?_close]
    exact isSome_firstAt?_congr _ _ h
  | cat a b iha ihb =>
    rintro rest trail p r ⟨q, hq, hr⟩ h
    rw [firstAt?_cat]
    exact iha.iteration ihb hq hr h
  | alt a b iha ihb =>
    intro rest trail p q hq h
    rw [firstAt?_alt, Option.orElse_eq_orElse, Option.orElse_eq_or, Option.isSome_or,
      Bool.or_eq_true]
    exact hq.imp (fun hq => iha _ _ _ q hq h) fun hq => ihb _ _ _ q hq h
  | times lo hi greedy t ih => exact ih.times lo hi greedy

end Thread

/-! ### The match at a place -/

section

variable {t : Term} {p : Place}

/-- The match that is found ends where the term matches. -/
lemma Term.exists_of_matchAt? {trail : Trail}
    (h : t.matchAt? p.before p.offset p.text = some trail) :
    ∃ q, t.Matches p q ∧ trail.lastClosed 0 = some q.offset := by
  rw [Term.matchAt?_eq_first?, ← Thread.firstAt?, Thread.firstAt?_group] at h
  obtain ⟨q, trail', hq, hlast⟩ := Thread.sound t _ _ _ _ h
  rw [onward_close, Still.nil.onward, Thread.firstAt?_close, Thread.firstAt?_nil] at hlast
  obtain rfl := Option.some.inj hlast
  exact ⟨q, hq, rfl⟩

/-- **A match is found wherever there is one.** -/
theorem Term.matchAt?_eq_none_iff :
    t.matchAt? p.before p.offset p.text = none ↔ ∀ q, ¬ t.Matches p q := by
  constructor
  · intro hnone q hq
    rw [Term.matchAt?_eq_first?, ← Thread.firstAt?, Thread.firstAt?_group,
      ← Option.not_isSome_iff_eq_none] at hnone
    refine hnone (Thread.complete t _ _ _ q hq ?_)
    rw [onward_close, Still.nil.onward, Thread.firstAt?_close, Thread.firstAt?_nil]
    rfl
  · intro h
    rw [Option.eq_none_iff_forall_ne_some]
    intro trail htrail
    obtain ⟨q, hq, -⟩ := Term.exists_of_matchAt? htrail
    exact h q hq

end

end StablePath.Pattern
