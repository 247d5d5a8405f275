import StablePath.Proofs.Pattern.Place
import StablePath.Proofs.Pattern.Preference

/-!
The walk of a thread, term by term.

A term that matches one of finitely many words of classes is read word by word; a greedy loop
around a class tries all runs of the class, the longest first.
-/

namespace StablePath.Pattern

/-! ### Frames one by one -/

/-- Taking a character changes none of the frames. -/
def Still (rest : List Frame) : Prop := rest.map Frame.move = rest

namespace Still

lemma nil : Still [] := rfl

lemma run {rest : List Frame} (h : Still rest) (t : Term) : Still (.run t :: rest) :=
  congrArg (_ :: ·) h

lemma close {rest : List Frame} (h : Still rest) (g : Nat) : Still (.close g :: rest) :=
  congrArg (_ :: ·) h

end Still

namespace Thread

/-- What a thread is finished with from a place. -/
def firstAt? (thread : Thread) (p : Place) : Option Trail := thread.first? p.before p.offset p.text

variable {rest : List Frame} {trail : Trail} {p : Place}

lemma firstAt?_nil : firstAt? ⟨[], trail⟩ p = some trail := first?_of_finished

lemma firstAt?_close (g : Nat) :
    firstAt? ⟨.close g :: rest, trail⟩ p = firstAt? ⟨rest, .closed g p.offset :: trail⟩ p :=
  first?_of_go rfl

lemma firstAt?_group (g : Nat) (t : Term) :
    firstAt? ⟨.run (.group g t) :: rest, trail⟩ p =
      firstAt? ⟨.run t :: .close g :: rest, .opened g p.offset :: trail⟩ p :=
  first?_of_go rfl

lemma firstAt?_empty : firstAt? ⟨.run .empty :: rest, trail⟩ p = firstAt? ⟨rest, trail⟩ p :=
  first?_of_go rfl

lemma firstAt?_cat (a b : Term) :
    firstAt? ⟨.run (.cat a b) :: rest, trail⟩ p = firstAt? ⟨.run a :: .run b :: rest, trail⟩ p :=
  first?_of_go rfl

lemma firstAt?_alt (a b : Term) :
    firstAt? ⟨.run (.alt a b) :: rest, trail⟩ p =
      (firstAt? ⟨.run a :: rest, trail⟩ p <|> firstAt? ⟨.run b :: rest, trail⟩ p) :=
  first?_of_fork rfl

lemma firstAt?_times_zero (greedy : Bool) (t : Term) :
    firstAt? ⟨.run (.times 0 (some 0) greedy t) :: rest, trail⟩ p = firstAt? ⟨rest, trail⟩ p :=
  first?_of_go rfl

lemma firstAt?_times_succ (n m : Nat) (greedy : Bool) (t : Term) :
    firstAt? ⟨.run (.times (n + 1) (some (m + 1)) greedy t) :: rest, trail⟩ p =
      firstAt? ⟨.run t :: .run (.times n (some m) greedy t) :: rest, trail⟩ p := by
  cases n <;> exact first?_of_go rfl

lemma firstAt?_times_more (n : Nat) (greedy : Bool) (t : Term) :
    firstAt? ⟨.run (.times (n + 2) none greedy t) :: rest, trail⟩ p =
      firstAt? ⟨.run t :: .run (.times (n + 1) none greedy t) :: rest, trail⟩ p :=
  first?_of_go rfl

/-- Every frame below hears of the character. -/
lemma firstAt?_take (s : CharSet) :
    firstAt? ⟨.run (.oneOf s) :: rest, trail⟩ p =
      (p.read [s]).bind (firstAt? ⟨rest.map Frame.move, trail⟩) := by
  have hw : Waits ⟨.run (.oneOf s) :: rest, trail⟩ := Or.inr ⟨s, rest, rfl⟩
  obtain ⟨before, offset, text⟩ := p
  unfold firstAt?
  cases text with
  | nil =>
    rw [first?_of_waits_nil hw rfl]
    rfl
  | cons c text =>
    rw [first?_of_waits hw rfl]
    simp only [take?, Place.read]
    split_ifs <;> rfl

lemma firstAt?_oneOf (hrest : Still rest) (s : CharSet) :
    firstAt? ⟨.run (.oneOf s) :: rest, trail⟩ p = (p.read [s]).bind (firstAt? ⟨rest, trail⟩) := by
  rw [firstAt?_take, show rest.map Frame.move = rest from hrest]

lemma move_again (hrest : Still rest) (progress : Progress) (t : Term) :
    (Frame.again progress true t :: rest).map Frame.move = .again .moved true t :: rest :=
  congrArg _ hrest

/-- A loop that has moved goes on for as long as it can. -/
lemma firstAt?_again (hrest : Still rest) (s : CharSet) (before : Option Char) (offset : Nat)
    (text : List Char) :
    firstAt? ⟨.again .moved true (.oneOf s) :: rest, trail⟩ ⟨before, offset, text⟩ =
      Place.loop s (firstAt? ⟨rest, trail⟩) before offset text := by
  have hfork : ∀ p : Place, firstAt? ⟨.again .moved true (.oneOf s) :: rest, trail⟩ p =
      (firstAt? ⟨.run (.oneOf s) :: .again .idle true (.oneOf s) :: rest, trail⟩ p <|>
        firstAt? ⟨rest, trail⟩ p) := fun p => first?_of_fork rfl
  induction text generalizing before offset with
  | nil =>
    rw [hfork, firstAt?_take]
    rfl
  | cons c text ih =>
    rw [hfork, firstAt?_take, move_again hrest, Place.loop, ← ih]
    simp only [Place.read]
    split_ifs <;> rfl

lemma firstAt?_star (hrest : Still rest) (s : CharSet) :
    firstAt? ⟨.run (.times 0 none true (.oneOf s)) :: rest, trail⟩ p =
      Place.loop s (firstAt? ⟨rest, trail⟩) p.before p.offset p.text := by
  have hfork : firstAt? ⟨.run (.times 0 none true (.oneOf s)) :: rest, trail⟩ p =
      (firstAt? ⟨.run (.oneOf s) :: .again .opening true (.oneOf s) :: rest, trail⟩ p <|>
        firstAt? ⟨rest, trail⟩ p) := first?_of_fork rfl
  obtain ⟨before, offset, text⟩ := p
  rw [hfork, firstAt?_take, move_again hrest]
  cases text with
  | nil => rfl
  | cons c text =>
    rw [Place.loop, ← firstAt?_again hrest]
    simp only [Place.read]
    split_ifs <;> rfl

lemma firstAt?_plus (hrest : Still rest) (n : Nat) (s : CharSet) :
    firstAt? ⟨.run (.times (n + 1) none true (.oneOf s)) :: rest, trail⟩ p =
      (p.read (List.replicate (n + 1) s)).bind fun q =>
        Place.loop s (firstAt? ⟨rest, trail⟩) q.before q.offset q.text := by
  induction n generalizing p with
  | zero =>
    have hgo : firstAt? ⟨.run (.times 1 none true (.oneOf s)) :: rest, trail⟩ p =
        firstAt? ⟨.run (.oneOf s) :: .again .opening true (.oneOf s) :: rest, trail⟩ p :=
      first?_of_go rfl
    rw [hgo, firstAt?_take, move_again hrest]
    exact congrArg _ (funext fun q => firstAt?_again hrest s _ _ _)
  | succ n ih =>
    have hword : List.replicate (n + 1 + 1) s = [s] ++ List.replicate (n + 1) s := rfl
    rw [firstAt?_times_more, firstAt?_oneOf (hrest.run _), hword, Place.read_append, Option.bind_assoc]
    exact congrArg _ (funext fun q => ih)

lemma firstAt?_times (hrest : Still rest) (lo : Nat) (s : CharSet) :
    firstAt? ⟨.run (.times lo none true (.oneOf s)) :: rest, trail⟩ p =
      p.times lo s (firstAt? ⟨rest, trail⟩) := by
  cases lo with
  | zero => exact firstAt?_star hrest s
  | succ n => exact firstAt?_plus hrest n s

end Thread

/-! ### Finitely many words -/

/-- All words of `v` with all words of `w` after them. -/
def products (v w : List (List CharSet)) : List (List CharSet) :=
  v.flatMap fun x => w.map (x ++ ·)

def powers (w : List (List CharSet)) : Nat → List (List CharSet)
  | 0 => [[]]
  | n + 1 => products w (powers w n)

/-- The words of classes that a term matches, if there are finitely many, best first. -/
def Term.words? : Term → Option (List (List CharSet))
  | empty => some [[]]
  | oneOf s => some [[s]]
  | cat a b => a.words?.bind fun v => b.words?.map (products v)
  | alt a b => a.words?.bind fun v => b.words?.map (v ++ ·)
  | times lo hi _ t => if hi = some lo then t.words?.map fun w => powers w lo else none
  | look _ | group _ _ => none

lemma findSome?_products (v w : List (List CharSet)) (k : Place → Option Trail) (p : Place) :
    ((products v w).findSome? fun x => (p.read x).bind k) =
      v.findSome? fun x => (p.read x).bind fun q => w.findSome? fun y => (q.read y).bind k := by
  induction v with
  | nil => rfl
  | cons x v ih =>
    have hfirst : ((w.map (x ++ ·)).findSome? fun y => (p.read y).bind k) =
        (p.read x).bind fun q => w.findSome? fun y => (q.read y).bind k := by
      rw [List.findSome?_map]
      cases h : p.read x with
      | none => simp [Function.comp_def, Place.read_append, h]
      | some q => simp [Function.comp_def, Place.read_append, h]
    have hcons : products (x :: v) w = w.map (x ++ ·) ++ products v w := rfl
    rw [hcons, List.findSome?_append, hfirst, ih, List.findSome?_cons]
    cases (p.read x).bind fun q => w.findSome? fun y => (q.read y).bind k <;> rfl

/-- A term with finitely many words is read word by word. -/
lemma Thread.firstAt?_words {t : Term} {ws : List (List CharSet)} (ht : t.words? = some ws)
    {rest : List Frame} {trail : Trail} (hrest : Still rest) (p : Place) :
    firstAt? ⟨.run t :: rest, trail⟩ p =
      ws.findSome? fun w => (p.read w).bind (firstAt? ⟨rest, trail⟩) := by
  induction t generalizing ws rest p with
  | look l => cases ht
  | group g t => cases ht
  | empty =>
    obtain rfl := Option.some.inj ht
    simp [firstAt?_empty, Place.read]
  | oneOf s =>
    obtain rfl := Option.some.inj ht
    simp [firstAt?_oneOf hrest]
  | cat a b iha ihb =>
    obtain ⟨v, hv, hws⟩ := Option.bind_eq_some_iff.mp ht
    obtain ⟨w, hw, rfl⟩ := Option.map_eq_some_iff.mp hws
    rw [firstAt?_cat, iha hv (hrest.run b), findSome?_products]
    congr 1
    funext x
    exact congrArg _ (funext fun q => ihb hw hrest q)
  | alt a b iha ihb =>
    obtain ⟨v, hv, hws⟩ := Option.bind_eq_some_iff.mp ht
    obtain ⟨w, hw, rfl⟩ := Option.map_eq_some_iff.mp hws
    rw [firstAt?_alt, iha hv hrest, ihb hw hrest, List.findSome?_append, Option.orElse_eq_orElse,
      Option.orElse_eq_or]
  | times lo hi greedy t ih =>
    rw [Term.words?] at ht
    split_ifs at ht with hhi
    obtain ⟨w, hw, rfl⟩ := Option.map_eq_some_iff.mp ht
    subst hhi
    clear ht
    induction lo generalizing p with
    | zero =>
      rw [firstAt?_times_zero]
      simp [powers, Place.read]
    | succ n ihn =>
      rw [firstAt?_times_succ, ih hw (hrest.run _), powers, findSome?_products]
      congr 1
      funext x
      exact congrArg _ (funext fun q => ihn q)

end StablePath.Pattern
