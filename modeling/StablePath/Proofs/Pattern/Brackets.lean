import StablePath.Proofs.Pattern.Numbering
import StablePath.Proofs.Pattern.Preference
import StablePath.Text.Basic

/-!
Groups as brackets.

A thread opens groups and closes them again, each inside the one around it and none before the
place that it has come to. So in the trail of a match every group lies in the text of the match,
between two of its characters, and ends no sooner than it begins.
-/

namespace StablePath.Pattern

open Text

/-! ### What one move does -/

namespace Event

def group : Event → Nat
  | opened g _ | closed g _ => g

end Event

/-- The group that a frame closes. -/
def Frame.closes? : Frame → Option Nat
  | close g => some g
  | _ => none

def Frame.GroupsPos : Frame → Prop
  | run t => t.GroupsPos
  | close g => 0 < g
  | again _ _ body => body.GroupsPos

/-- Where a move leads from a stack of frames: the top frame is taken apart, or it opens a group,
or it closes one. -/
inductive Moved (offset : Nat) (rest : List Frame) (trail : Trail) : Frame → Thread → Prop
  | apart {frame : Frame} (parts : List Frame) (closes : ∀ f ∈ parts, f.closes? = none)
      (pos : frame.GroupsPos → ∀ f ∈ parts, f.GroupsPos) (hframe : frame.closes? = none) :
      Moved offset rest trail frame ⟨parts ++ rest, trail⟩
  | opens (g : Nat) (t : Term) :
      Moved offset rest trail (.run (.group g t)) ⟨.run t :: .close g :: rest,
        .opened g offset :: trail⟩
  | closes (g : Nat) : Moved offset rest trail (.close g) ⟨rest, .closed g offset :: trail⟩

/-- Every way on of a move has a property. -/
def Move.Each (P : Thread → Prop) : Move → Prop
  | wait | stop => True
  | go next => P next
  | fork preferred other => P preferred ∧ P other

lemma Move.each_loop {P : Thread → Prop} {greedy : Bool} {more leave : Thread} (hmore : P more)
    (hleave : P leave) : (Move.loop greedy more leave).Each P := by
  cases greedy
  · exact ⟨hleave, hmore⟩
  · exact ⟨hmore, hleave⟩

lemma Move.Each.imp {P Q : Thread → Prop} (h : ∀ t, P t → Q t) {m : Move} (hm : m.Each P) :
    m.Each Q := by
  cases m with
  | wait | stop => trivial
  | go next => exact h _ hm
  | fork preferred other => exact ⟨h _ hm.1, h _ hm.2⟩

namespace Moved

variable {offset : Nat} {rest : List Frame} {trail : Trail} {g : Frame}

lemma away (hg : g.closes? = none) : Moved offset rest trail g ⟨rest, trail⟩ :=
  .apart [] (by simp) (by simp) hg

lemma one (hg : g.closes? = none) {f : Frame} (hf : f.closes? = none)
    (hpos : g.GroupsPos → f.GroupsPos) : Moved offset rest trail g ⟨f :: rest, trail⟩ :=
  .apart [f] (by simpa using hf) (fun h => by simpa using hpos h) hg

lemma two (hg : g.closes? = none) {f f' : Frame} (hf : f.closes? = none) (hf' : f'.closes? = none)
    (hpos : g.GroupsPos → f.GroupsPos ∧ f'.GroupsPos) :
    Moved offset rest trail g ⟨f :: f' :: rest, trail⟩ :=
  .apart [f, f'] (by simpa using ⟨hf, hf'⟩) (fun h => by simpa using hpos h) hg

end Moved

lemma Move.Each.and {P Q : Thread → Prop} {m : Move} (hp : m.Each P) (hq : m.Each Q) :
    m.Each fun t => P t ∧ Q t := by
  cases m with
  | wait | stop => trivial
  | go next => exact ⟨hp, hq⟩
  | fork preferred other => exact ⟨⟨hp.1, hq.1⟩, ⟨hp.2, hq.2⟩⟩

lemma Thread.moved (spot : Spot) (frame : Frame) (rest : List Frame) (trail : Trail) :
    ((⟨frame :: rest, trail⟩ : Thread).move spot).Each (Moved spot.offset rest trail frame) := by
  have hmoves := Thread.moves spot frame rest trail
  generalize (⟨frame :: rest, trail⟩ : Thread).move spot = next at hmoves ⊢
  cases hmoves with
  | oneOf | fails | idle => trivial
  | group g t => exact .opens g t
  | close g => exact .closes g
  | empty | holds | never | opening => exact Moved.away rfl
  | cat a b => exact Moved.two rfl rfl rfl id
  | alt a b => exact ⟨Moved.one rfl rfl And.left, Moved.one rfl rfl And.right⟩
  | once | more => exact Moved.two rfl rfl rfl fun h => ⟨h, h⟩
  | upTo | any | moved =>
    exact Move.each_loop (Moved.two rfl rfl rfl fun h => ⟨h, h⟩) (Moved.away rfl)

/-- What moves and taken characters keep holds of the thread that is finished. -/
lemma Thread.exists_of_first? {I : List Char → Thread → Prop} {start : Nat}
    (hmove : ∀ used spot thread, spot.offset = start + width used → I used thread →
      (thread.move spot).Each (I used))
    (htake : ∀ used c thread next, I used thread → thread.take? c = some next →
      I (used ++ [c]) next)
    {before : Option Char} {text : List Char} {thread : Thread} {used : List Char} {trail : Trail}
    (h : thread.first? before (start + width used) text = some trail) (hI : I used thread) :
    ∃ more rest, more ++ rest = text ∧ I (used ++ more) ⟨[], trail⟩ := by
  obtain ⟨offset, hoffset⟩ : ∃ offset, offset = start + width used := ⟨_, rfl⟩
  rw [← hoffset] at h
  -- the invariant is carried along the thread, with the text that it has read
  induction before, offset, text, thread using Thread.walk generalizing used with
  | stop before offset text thread hm =>
    rw [Thread.first?_of_stop hm] at h
    cases h
  | go before offset text thread next hm ih =>
    have hnext := hmove used ⟨before, offset, text.head?⟩ thread hoffset hI
    rw [hm] at hnext
    rw [Thread.first?_of_go hm] at h
    exact ih hnext h hoffset
  | fork before offset text thread preferred other hm ih ih' =>
    have hnext := hmove used ⟨before, offset, text.head?⟩ thread hoffset hI
    rw [hm] at hnext
    rw [Thread.first?_of_fork hm] at h
    cases hp : preferred.first? before offset text with
    | none => exact ih' hnext.2 (by simpa [hp] using h) hoffset
    | some found => exact ih hnext.1 (by simpa [hp] using h) hoffset
  | finished before offset text trail' =>
    rw [Thread.first?_of_finished] at h
    obtain rfl := Option.some.inj h
    exact ⟨[], text, rfl, by simpa using hI⟩
  | ended before offset thread hw hfin =>
    rw [Thread.first?_of_waits_nil hw hfin] at h
    cases h
  | refused before offset c rest thread hw hfin htake' =>
    rw [Thread.first?_of_waits hw hfin, htake'] at h
    cases h
  | taken before offset c rest thread next hw hfin htake' ih =>
    rw [Thread.first?_of_waits hw hfin, htake'] at h
    obtain ⟨more, rest', happ, hfinal⟩ := ih (htake used c thread next hI htake') h
      (by rw [hoffset, width_append, width_cons, width_nil]; omega)
    exact ⟨c :: more, rest', by simp [happ], by simpa using hfinal⟩

/-! ### Opened and closed -/

/-- A trail in which the groups `pending`, latest first, are still open. Each event lies at the end
of a part of `used`, the text taken since `start`, and those before it lie no later. -/
inductive Brackets (start : Nat) : (used : List Char) → (pending : List Nat) → Trail → Prop
  | nil (used : List Char) : Brackets start used [] []
  | opened {u used : List Char} {pending : List Nat} {trail : Trail} (g : Nat) (hu : u <+: used)
      (h : Brackets start u pending trail) :
      Brackets start used (g :: pending) (.opened g (start + width u) :: trail)
  | closed {u used : List Char} {pending : List Nat} {trail : Trail} (g : Nat) (hu : u <+: used)
      (h : Brackets start u (g :: pending) trail) :
      Brackets start used pending (.closed g (start + width u) :: trail)

namespace Trail

variable {g g' n : Nat} {trail : Trail}

lemma lastOpened_opened :
    lastOpened g (.opened g' n :: trail) = if g = g' then some n else lastOpened g trail := by
  unfold lastOpened
  rw [List.findSome?_cons]
  split_ifs with h
  · simp [h]
  · simp [Ne.symm h]

lemma lastOpened_closed : lastOpened g (.closed g' n :: trail) = lastOpened g trail := rfl

lemma lastClosed_closed :
    lastClosed g (.closed g' n :: trail) = if g = g' then some n else lastClosed g trail := by
  unfold lastClosed
  rw [List.findSome?_cons]
  split_ifs with h
  · simp [h]
  · simp [Ne.symm h]

lemma span_eq_some_iff {a b : Nat} :
    trail.span g = some (a, b) ↔ trail.lastClosed g = some b ∧ trail.lastOpened g = some a := by
  simp [Trail.span, Option.bind_eq_some_iff]

end Trail

namespace Brackets

variable {start : Nat} {used : List Char} {pending : List Nat} {trail : Trail} {g a b : Nat}

lemma mono {more : List Char} (h : Brackets start used pending trail) (hm : used <+: more) :
    Brackets start more pending trail := by
  cases h with
  | nil => exact .nil more
  | opened g hu h => exact .opened g (hu.trans hm) h
  | closed g hu h => exact .closed g (hu.trans hm) h

lemma lastOpened (h : Brackets start used pending trail) (hg : trail.lastOpened g = some a) :
    ∃ u, u <+: used ∧ a = start + width u := by
  induction h with
  | nil => cases hg
  | @opened u used _ _ g' hu _ ih =>
    rw [Trail.lastOpened_opened] at hg
    split_ifs at hg with heq
    · exact ⟨u, hu, (Option.some.inj hg).symm⟩
    · obtain ⟨v, hv, ha⟩ := ih hg
      exact ⟨v, hv.trans hu, ha⟩
  | closed g' hu _ ih =>
    obtain ⟨v, hv, ha⟩ := ih hg
    exact ⟨v, hv.trans hu, ha⟩

/-- A group that is not open any more was closed after it was opened. -/
lemma span (h : Brackets start used pending trail) (hp : g ∉ pending)
    (hg : trail.span g = some (a, b)) :
    ∃ u v, u <+: v ∧ v <+: used ∧ a = start + width u ∧ b = start + width v := by
  obtain ⟨hclosed, hopened⟩ := Trail.span_eq_some_iff.mp hg
  clear hg
  induction h with
  | nil => cases hclosed
  | @opened u used pending trail g' hu _ ih =>
    obtain ⟨hne, hp⟩ := not_or.mp (mt List.mem_cons.mpr hp)
    rw [Trail.lastOpened_opened, if_neg hne] at hopened
    obtain ⟨v, w, hvw, hw, ha, hb⟩ := ih hp hclosed hopened
    exact ⟨v, w, hvw, hw.trans hu, ha, hb⟩
  | @closed u used pending trail g' hu h ih =>
    rw [Trail.lastClosed_closed] at hclosed
    split_ifs at hclosed with heq
    · obtain ⟨v, hv, ha⟩ := h.lastOpened hopened
      exact ⟨v, u, hv, hu, ha, (Option.some.inj hclosed).symm⟩
    · obtain ⟨v, w, hvw, hw, ha, hb⟩ := ih (by simp [heq, hp]) hclosed hopened
      exact ⟨v, w, hvw, hw.trans hu, ha, hb⟩

end Brackets

/-- The groups that a stack of frames closes, the first to be closed first. -/
def pendingGroups (frames : List Frame) : List Nat := frames.filterMap Frame.closes?

def Thread.Bracketed (start : Nat) (used : List Char) (thread : Thread) : Prop :=
  Brackets start used (pendingGroups thread.todo) thread.trail

lemma pendingGroups_append {frames rest : List Frame} (h : ∀ f ∈ frames, f.closes? = none) :
    pendingGroups (frames ++ rest) = pendingGroups rest := by
  unfold pendingGroups
  rw [List.filterMap_append, List.filterMap_eq_nil_iff.mpr h, List.nil_append]

lemma Thread.Bracketed.move {start : Nat} {used : List Char} {thread : Thread}
    (h : thread.Bracketed start used) {spot : Spot} (hspot : spot.offset = start + width used) :
    (thread.move spot).Each (Thread.Bracketed start used) := by
  obtain ⟨todo, trail⟩ := thread
  cases todo with
  | nil => trivial
  | cons frame rest =>
    refine (Thread.moved spot frame rest trail).imp fun next hnext => ?_
    unfold Thread.Bracketed at h ⊢
    cases hnext with
    | apart parts hparts _ hframe =>
      rw [pendingGroups_append hparts]
      simpa [pendingGroups, hframe] using h
    | opens g t => exact hspot ▸ .opened g List.prefix_rfl h
    | closes g => exact hspot ▸ .closed g List.prefix_rfl h

lemma pendingGroups_move (frames : List Frame) :
    pendingGroups (frames.map Frame.move) = pendingGroups frames := by
  have hsame : Frame.closes? ∘ Frame.move = Frame.closes? := by
    funext f
    cases f <;> rfl
  rw [pendingGroups, List.filterMap_map, hsame, pendingGroups]

lemma Thread.take?_eq_some_iff {thread next : Thread} {c : Char} :
    thread.take? c = some next ↔ ∃ s rest, thread.todo = .run (.oneOf s) :: rest ∧
      s.contains c.toNat = true ∧ next = ⟨rest.map Frame.move, thread.trail⟩ := by
  obtain ⟨todo, trail⟩ := thread
  unfold Thread.take?
  dsimp only
  split
  next s rest =>
    simp only [List.cons.injEq, Frame.run.injEq, Term.oneOf.injEq]
    constructor
    · intro h
      split_ifs at h with hs
      exact ⟨s, rest, ⟨rfl, rfl⟩, hs, (Option.some.inj h).symm⟩
    · rintro ⟨s, rest, ⟨rfl, rfl⟩, hs, rfl⟩
      rw [if_pos hs]
  next hno =>
    constructor
    · intro h
      cases h
    · rintro ⟨s, rest, rfl, -, -⟩
      exact absurd rfl (hno s rest)

lemma Thread.Bracketed.take {start : Nat} {used : List Char} {thread next : Thread} {c : Char}
    (h : thread.Bracketed start used) (ht : thread.take? c = some next) :
    next.Bracketed start (used ++ [c]) := by
  obtain ⟨s, rest, htodo, -, rfl⟩ := Thread.take?_eq_some_iff.mp ht
  unfold Thread.Bracketed at h ⊢
  rw [htodo] at h
  rw [pendingGroups_move]
  exact h.mono (List.prefix_append _ _)

/-! ### The whole match -/

def Trail.GroupsPos (trail : Trail) : Prop := ∀ e ∈ trail, 0 < e.group

/-- Group zero was opened at the start, before all other groups, and is closed after them. -/
inductive Thread.Whole (start : Nat) (used : List Char) (thread : Thread) : Prop
  | inside (inner : List Frame) (events : Trail) (todo : thread.todo = inner ++ [.close 0])
      (trail : thread.trail = events ++ [.opened 0 start])
      (inner_pos : ∀ f ∈ inner, f.GroupsPos) (events_pos : events.GroupsPos)
  | finished (events : Trail) (todo : thread.todo = [])
      (trail : thread.trail = .closed 0 (start + width used) :: (events ++ [.opened 0 start]))
      (events_pos : events.GroupsPos)

lemma Trail.GroupsPos.cons {trail : Trail} (h : trail.GroupsPos) {e : Event} (he : 0 < e.group) :
    Trail.GroupsPos (e :: trail) := List.forall_mem_cons.mpr ⟨he, h⟩

lemma Thread.Whole.move {start : Nat} {used : List Char} {thread : Thread}
    (h : thread.Whole start used) {spot : Spot} (hspot : spot.offset = start + width used) :
    (thread.move spot).Each (Thread.Whole start used) := by
  obtain ⟨todo, trail⟩ := thread
  cases h with
  | finished events htodo =>
    obtain rfl : todo = [] := htodo
    trivial
  | inside inner events htodo htrail hinner hevents =>
    obtain rfl : todo = inner ++ [.close 0] := htodo
    obtain rfl : trail = events ++ [.opened 0 start] := htrail
    cases inner with
    | nil => exact .finished events rfl (by rw [hspot]) hevents
    | cons frame inner =>
      obtain ⟨hframe, hrest⟩ := List.forall_mem_cons.mp hinner
      refine (Thread.moved spot frame (inner ++ [.close 0]) _).imp fun next hnext => ?_
      cases hnext with
      | apart parts _ hpos _ =>
        refine .inside (parts ++ inner) events (List.append_assoc _ _ _).symm rfl ?_ hevents
        exact List.forall_mem_append.mpr ⟨hpos hframe, hrest⟩
      | opens g t =>
        obtain ⟨hg, ht⟩ : 0 < g ∧ t.GroupsPos := hframe
        refine .inside (.run t :: .close g :: inner) (.opened g spot.offset :: events) rfl rfl ?_
          (hevents.cons hg)
        exact List.forall_mem_cons.mpr ⟨ht, List.forall_mem_cons.mpr ⟨hg, hrest⟩⟩
      | closes g =>
        exact .inside inner (.closed g spot.offset :: events) rfl rfl hrest (hevents.cons hframe)

lemma Frame.GroupsPos.move {f : Frame} (h : f.GroupsPos) : f.move.GroupsPos := by
  cases f <;> exact h

lemma Thread.Whole.take {start : Nat} {used : List Char} {thread next : Thread} {c : Char}
    (h : thread.Whole start used) (ht : thread.take? c = some next) :
    next.Whole start (used ++ [c]) := by
  obtain ⟨s, rest, hrun, -, rfl⟩ := Thread.take?_eq_some_iff.mp ht
  cases h with
  | finished _ htodo => rw [htodo] at hrun; cases hrun
  | inside inner events htodo htrail hinner hevents =>
    rw [htodo] at hrun
    cases inner with
    | nil => cases hrun
    | cons frame inner =>
      obtain ⟨-, rfl⟩ := List.cons.inj hrun
      refine .inside (inner.map Frame.move) events (by simp [Frame.move]) htrail ?_ hevents
      intro f hf
      obtain ⟨g, hg, rfl⟩ := List.mem_map.mp hf
      exact (hinner g (List.mem_cons_of_mem _ hg)).move

lemma Trail.lastOpened_of_pos {events : Trail} (start : Nat) (h : events.GroupsPos) :
    Trail.lastOpened 0 (events ++ [.opened 0 start]) = some start := by
  induction events with
  | nil => rfl
  | cons e events ih =>
    obtain ⟨he, hevents⟩ := List.forall_mem_cons.mp h
    cases e with
    | opened g n =>
      have hne : 0 ≠ g := Nat.ne_of_lt he
      rw [List.cons_append, Trail.lastOpened_opened, if_neg hne]
      exact ih hevents
    | closed g n => exact ih hevents

/-- Two cuts of a text, the first no later than the second, cut it in three. -/
lemma exists_append_of_prefix {u v used : List Char} (huv : u <+: v) (hv : v <+: used)
    (start : Nat) :
    ∃ y z, used = u ++ y ++ z ∧ start + width v = start + width u + width y := by
  obtain ⟨y, rfl⟩ := huv
  obtain ⟨z, rfl⟩ := hv
  exact ⟨y, z, rfl, by rw [width_append, Nat.add_assoc]⟩

/-- **The spans of a match**: group zero is the text taken, and every other group that took part is
a part of it. -/
theorem Term.matchAt?_spans {t : Term} (ht : t.GroupsPos) {before : Option Char} {offset : Nat}
    {text : List Char} {trail : Trail} (h : t.matchAt? before offset text = some trail) :
    ∃ used rest, used ++ rest = text ∧
      trail.span 0 = some (offset, offset + width used) ∧
      ∀ g a b, trail.span g = some (a, b) →
        ∃ x y z, used = x ++ y ++ z ∧ a = offset + width x ∧ b = a + width y := by
  rw [Term.matchAt?_eq_first?, Thread.first?_of_go rfl] at h
  have hbrackets : Thread.Bracketed offset [] ⟨[.run t, .close 0], [.opened 0 offset]⟩ :=
    .opened 0 List.prefix_rfl (.nil [])
  have hwhole : Thread.Whole offset [] ⟨[.run t, .close 0], [.opened 0 offset]⟩ :=
    .inside [.run t] [] rfl rfl (List.forall_mem_singleton.mpr ht) (List.forall_mem_nil _)
  obtain ⟨used, rest, htext, hbrackets, hwhole⟩ := Thread.exists_of_first?
    (fun used spot thread hspot (hI : thread.Bracketed offset used ∧ thread.Whole offset used) =>
      (hI.1.move hspot).and (hI.2.move hspot))
    (fun used c thread next hI htake => ⟨hI.1.take htake, hI.2.take htake⟩) h ⟨hbrackets, hwhole⟩
  rw [List.nil_append] at hbrackets hwhole
  refine ⟨used, rest, htext, ?_, fun g a b hg => ?_⟩
  · cases hwhole with
    | inside inner _ htodo => exact absurd htodo.symm (by simp)
    | finished events _ htrail hevents =>
      rw [show trail = _ from htrail, Trail.span_eq_some_iff, Trail.lastClosed_closed,
        Trail.lastOpened_closed]
      exact ⟨rfl, Trail.lastOpened_of_pos offset hevents⟩
  · obtain ⟨u, v, huv, hv, rfl, rfl⟩ := Brackets.span hbrackets (by simp [pendingGroups]) hg
    obtain ⟨y, z, hused, hwidth⟩ := exists_append_of_prefix huv hv offset
    exact ⟨u, y, z, hused, rfl, hwidth⟩

end StablePath.Pattern
