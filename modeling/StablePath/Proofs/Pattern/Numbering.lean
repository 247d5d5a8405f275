import Mathlib.Data.Option.Basic
import Mathlib.Tactic.Common
import StablePath.Pattern

/-!
The numbers of groups.

Group zero is the whole match. No group of a pattern that has been read has this number: the reader
counts groups from one.
-/

namespace StablePath.Pattern

/-- Every group has a number above zero. -/
def Term.GroupsPos : Term → Prop
  | empty | oneOf _ | look _ => True
  | group n t => 0 < n ∧ t.GroupsPos
  | cat a b | alt a b => a.GroupsPos ∧ b.GroupsPos
  | times _ _ _ t => t.GroupsPos

namespace Term

lemma groupsPos_concat {ts : List Term} (h : ∀ t ∈ ts, t.GroupsPos) : (concat ts).GroupsPos := by
  fun_induction concat ts with
  | case1 => trivial
  | case2 t => exact h t List.mem_cons_self
  | case3 t ts _ ih =>
    exact ⟨h t List.mem_cons_self, ih fun u hu => h u (List.mem_cons_of_mem _ hu)⟩

lemma groupsPos_choice {t : Term} {ts : List Term} (ht : t.GroupsPos)
    (h : ∀ u ∈ ts, u.GroupsPos) : (choice t ts).GroupsPos := by
  induction ts generalizing t with
  | nil => exact ht
  | cons u us ih =>
    exact ⟨ht, ih (h u List.mem_cons_self) fun v hv => h v (List.mem_cons_of_mem _ hv)⟩

lemma groupsPos_repeated {t : Term} (lo : Nat) (hi : Option Nat) (greedy : Bool)
    (ht : t.GroupsPos) : (repeated lo hi greedy t).GroupsPos := by
  unfold repeated
  dsimp only
  generalize (if t.takesNothing = true then min lo 1 else lo) = lo'
  generalize (if t.takesNothing = true then some (min (hi.getD 1) 1) else hi) = hi'
  split_ifs
  · trivial
  · exact ht
  · exact ht

end Term

/-! ### What the reader keeps -/

def Item.GroupsPos : Item → Prop
  | part p => p.term.GroupsPos
  | modes => True

structure Body.GroupsPos (body : Body) : Prop where
  items : ∀ item ∈ body.items, item.GroupsPos
  branches : ∀ p ∈ body.branches, p.term.GroupsPos

namespace Body

lemma groupsPos_empty : ({} : Body).GroupsPos := ⟨by simp, by simp⟩

variable {body : Body}

lemma GroupsPos.push (h : body.GroupsPos) {item : Item} (hi : item.GroupsPos) :
    (body.push item).GroupsPos :=
  ⟨List.forall_mem_cons.mpr ⟨hi, h.items⟩, h.branches⟩

lemma GroupsPos.lastBranch (h : body.GroupsPos) : body.lastBranch.term.GroupsPos := by
  refine Term.groupsPos_concat fun t ht => ?_
  obtain ⟨item, hitem, hterm⟩ := List.mem_filterMap.mp ht
  have hpos := h.items item (List.mem_reverse.mp hitem)
  cases item with
  | part p =>
    obtain rfl : p.term = t := Option.some.inj hterm
    exact hpos
  | modes => cases hterm

lemma GroupsPos.branch (h : body.GroupsPos) : body.branch.GroupsPos :=
  ⟨by simp [Body.branch], List.forall_mem_cons.mpr ⟨h.lastBranch, h.branches⟩⟩

lemma GroupsPos.toPart (h : body.GroupsPos) : body.toPart.term.GroupsPos := by
  unfold Body.toPart
  split
  · exact h.lastBranch
  next first more hrev =>
    have hall : ∀ p ∈ first :: more, p.term.GroupsPos := fun p hp =>
      h.branches p (List.mem_reverse.mp (hrev ▸ hp))
    refine Term.groupsPos_choice (hall first List.mem_cons_self) fun u hu => ?_
    obtain ⟨p, hp, rfl⟩ := List.mem_map.mp hu
    rcases List.mem_append.mp hp with hp | hp
    · exact hall p (List.mem_cons_of_mem _ hp)
    · obtain rfl := List.mem_singleton.mp hp
      exact h.lastBranch

end Body

/-- The next group has a number above zero, as has every group read so far. -/
structure Reader.GroupsPos (reader : Reader) : Prop where
  next : 0 < reader.next
  body : reader.body.GroupsPos
  groups : ∀ g ∈ reader.groups, g.before.GroupsPos ∧ ∀ n, g.index = some n → 0 < n

namespace Reader

variable {reader reader' : Reader}

lemma GroupsPos.push (h : reader.GroupsPos) {p : Part} (hp : p.term.GroupsPos) :
    (reader.push p).GroupsPos :=
  ⟨h.next, h.body.push hp, h.groups⟩

lemma GroupsPos.openGroup (h : reader.GroupsPos) (mode : Mode) {index : Option Nat}
    (hi : ∀ n, index = some n → 0 < n) : (reader.openGroup mode index).GroupsPos where
  next := by
    have := h.next
    simp only [Reader.openGroup]
    split <;> omega
  body := Body.groupsPos_empty
  groups := List.forall_mem_cons.mpr ⟨⟨h.body, hi⟩, h.groups⟩

lemma GroupsPos.openCapture (h : reader.GroupsPos) : reader.openCapture.GroupsPos :=
  h.openGroup _ fun n hn => by
    obtain rfl := Option.some.inj hn
    exact h.next

lemma GroupsPos.openNamed (h : reader.GroupsPos) {text rest : List Char}
    (hr : reader.openNamed? text = some (reader', rest)) : reader'.GroupsPos := by
  simp only [Reader.openNamed?, Option.bind_eq_bind, Option.bind_eq_some_iff] at hr
  obtain ⟨_, _, _, _, hr⟩ := hr
  obtain ⟨rfl, rfl⟩ := Prod.mk.inj (Option.some.inj hr)
  exact ⟨h.openCapture.next, h.openCapture.body, h.openCapture.groups⟩

lemma GroupsPos.readOpen (h : reader.GroupsPos) {text rest : List Char}
    (hr : reader.readOpen? text = some (reader', rest)) : reader'.GroupsPos := by
  unfold Reader.readOpen? at hr
  split at hr
  · exact h.openNamed hr
  · exact h.openNamed hr
  next =>
    simp only [Option.bind_eq_bind, Option.bind_eq_some_iff] at hr
    obtain ⟨⟨mode, seen, after⟩, _, hr⟩ := hr
    dsimp only at hr
    split at hr
    · obtain ⟨_, _, hr⟩ := Option.bind_eq_some_iff.mp hr
      obtain ⟨rfl, rfl⟩ := Prod.mk.inj (Option.some.inj hr)
      exact ⟨h.next, h.body.push trivial, h.groups⟩
    · obtain ⟨rfl, rfl⟩ := Prod.mk.inj (Option.some.inj hr)
      exact h.openGroup mode (by simp)
    · cases hr
  next =>
    obtain ⟨rfl, rfl⟩ := Prod.mk.inj (Option.some.inj hr)
    exact h.openCapture

lemma GroupsPos.closeGroup (h : reader.GroupsPos) (hr : reader.closeGroup? = some reader') :
    reader'.GroupsPos := by
  unfold Reader.closeGroup? at hr
  split at hr
  · cases hr
  next group groups hg =>
    obtain rfl := Option.some.inj hr
    obtain ⟨⟨hbefore, hindex⟩, hgroups⟩ := List.forall_mem_cons.mp (hg ▸ h.groups)
    refine ⟨h.next, hbefore.push ?_, hgroups⟩
    have hinner := h.body.toPart
    cases hi : group.index with
    | none => simpa [Item.GroupsPos, hi] using hinner
    | some n => simpa [Item.GroupsPos, hi, Term.GroupsPos] using ⟨hindex n hi, hinner⟩

lemma GroupsPos.readRepeat (h : reader.GroupsPos) {lo : Nat} {hi : Option Nat}
    {text rest : List Char} (hr : reader.readRepeat? lo hi text = some (reader', rest)) :
    reader'.GroupsPos := by
  simp only [Reader.readRepeat?, Option.bind_eq_bind, Option.bind_eq_some_iff] at hr
  obtain ⟨last, hlast, hr⟩ := hr
  obtain ⟨rfl, rfl⟩ := Prod.mk.inj (Option.some.inj hr)
  unfold Reader.repeatLast? at hlast
  split at hlast
  next p items hitems =>
    obtain rfl := Option.some.inj hlast
    obtain ⟨hp, hrest⟩ := List.forall_mem_cons.mp (hitems ▸ h.body.items)
    exact ⟨h.next, ⟨List.forall_mem_cons.mpr ⟨Term.groupsPos_repeated _ _ _ hp, hrest⟩,
      h.body.branches⟩, h.groups⟩
  · cases hlast

lemma groupsPos_literalTerm {mode : Mode} {c : Char} {asByte : Bool} {t : Term}
    (h : literalTerm? mode c asByte = some t) : t.GroupsPos := by
  simp only [literalTerm?, Option.bind_eq_bind, Option.bind_eq_some_iff] at h
  obtain ⟨_, _, h⟩ := h
  obtain rfl := Option.some.inj h
  trivial

lemma groupsPos_atomTerm {mode : Mode} {atom : Atom} {t : Term}
    (h : Atom.term? mode atom = some t) : t.GroupsPos := by
  cases atom with
  | literal c asByte => exact groupsPos_literalTerm h
  | oneOf s => obtain rfl := Option.some.inj h; trivial
  | look l => obtain rfl := Option.some.inj h; trivial

lemma groupsPos_dotTerm {mode : Mode} {t : Term} (h : dotTerm? mode = some t) : t.GroupsPos := by
  unfold dotTerm? at h
  dsimp only at h
  split at h
  · obtain rfl := Option.some.inj h
    trivial
  · cases h

/-- One step of the reader: a sign by what it begins, and any other character as a literal. -/
lemma GroupsPos.step (h : reader.GroupsPos) {c : Char} {text rest : List Char}
    (hr : reader.step? c text = some (reader', rest)) : reader'.GroupsPos := by
  have hpushed : ∀ {term? : Option Term} {after : List Char}, (∀ t, term? = some t → t.GroupsPos) →
      (term?.bind fun t => some (reader.pushTerm t, after)) = some (reader', rest) →
        reader'.GroupsPos := by
    intro term? after hpos hterm
    obtain ⟨t, ht, hnext⟩ := Option.bind_eq_some_iff.mp hterm
    obtain ⟨rfl, rfl⟩ := Prod.mk.inj (Option.some.inj hnext)
    exact h.push (hpos t ht)
  -- the reader looks at the next character first
  rcases eq_or_ne c '(' with rfl | hopen
  · exact h.readOpen hr
  rcases eq_or_ne c ')' with rfl | hclose
  · obtain ⟨closed, hclosed, hnext⟩ := Option.map_eq_some_iff.mp hr
    obtain ⟨rfl, rfl⟩ := Prod.mk.inj hnext
    exact h.closeGroup hclosed
  rcases eq_or_ne c '|' with rfl | hbar
  · obtain ⟨rfl, rfl⟩ := Prod.mk.inj (Option.some.inj hr)
    exact ⟨h.next, h.body.branch, h.groups⟩
  rcases eq_or_ne c '[' with rfl | hclass
  · obtain ⟨part, _, hnext⟩ := Option.bind_eq_some_iff.mp hr
    obtain ⟨rfl, rfl⟩ := Prod.mk.inj (Option.some.inj hnext)
    exact h.push trivial
  rcases eq_or_ne c '*' with rfl | hstar
  · exact h.readRepeat hr
  rcases eq_or_ne c '+' with rfl | hplus
  · exact h.readRepeat hr
  rcases eq_or_ne c '?' with rfl | hoption
  · exact h.readRepeat hr
  rcases eq_or_ne c '{' with rfl | hbounds
  · obtain ⟨bounds, _, hnext⟩ := Option.bind_eq_some_iff.mp hr
    exact h.readRepeat hnext
  rcases eq_or_ne c '\\' with rfl | hescape
  · obtain ⟨atom, _, hnext⟩ := Option.bind_eq_some_iff.mp hr
    exact hpushed (fun t => groupsPos_atomTerm) hnext
  rcases eq_or_ne c '.' with rfl | hdot
  · exact hpushed (fun t => groupsPos_dotTerm) hr
  rcases eq_or_ne c '^' with rfl | hstart
  · obtain ⟨rfl, rfl⟩ := Prod.mk.inj (Option.some.inj hr)
    exact h.push trivial
  rcases eq_or_ne c '$' with rfl | hend
  · obtain ⟨rfl, rfl⟩ := Prod.mk.inj (Option.some.inj hr)
    exact h.push trivial
  have hliteral : reader.step? c text =
      (literalTerm? reader.mode c false).bind fun t => some (reader.pushTerm t, text) := by
    simp [Reader.step?]
  exact hpushed (fun t => groupsPos_literalTerm) (hliteral ▸ hr)

lemma GroupsPos.run (h : reader.GroupsPos) {fuel : Nat} {text : List Char}
    (hr : run? fuel reader text = some reader') : reader'.GroupsPos := by
  fun_induction run? fuel reader text with
  | case1 => exact Option.some.inj hr ▸ h
  | case2 => cases hr
  | case3 reader text fuel c rest hskip ih =>
    obtain ⟨⟨next, after⟩, hstep, hr⟩ := Option.bind_eq_some_iff.mp hr
    exact ih _ _ (h.step hstep) hr

/-- **The reader counts groups from one.** -/
theorem groupsPos_of_read {text : List Char} {t : Term} (h : read? text = some t) :
    t.GroupsPos := by
  simp only [read?, Option.bind_eq_bind, Option.bind_eq_some_iff] at h
  obtain ⟨reader, hrun, _, _, _, _, h⟩ := h
  obtain rfl := Option.some.inj h
  have hstart : ({} : Reader).GroupsPos := ⟨by decide, Body.groupsPos_empty, by simp⟩
  exact (hstart.run hrun).body.toPart

end Reader

end StablePath.Pattern
