import StablePath.Proofs.Builtin.Passes

/-!
Numbers between slashes.

The first two rules see a path as components between slashes. A match takes the slash behind its
number, so the name that follows right behind that slash cannot begin a match: of names and numbers
that follow each other directly only every other number is written over.
-/

namespace StablePath.Builtin

open Pattern Text

/-- The components of a path. -/
def components (path : List Char) : List (List Char) := path.splitOn '/'

lemma components_slash (text : List Char) :
    components ('/' :: text) = [] :: components text := by
  simp [components, List.splitOn_cons_eq_if_modifyHead]

lemma components_cons {c : Char} (hc : c ≠ '/') (text : List Char) :
    components (c :: text) = (components text).modifyHead (c :: ·) := by
  simp [components, List.splitOn_cons_eq_if_modifyHead, hc]

lemma components_append {a : List Char} (ha : '/' ∉ a) (text : List Char) :
    components (a ++ '/' :: text) = a :: components text :=
  List.splitOn_append_cons_self_of_not_mem ha text

lemma components_of_not_mem {a : List Char} (ha : '/' ∉ a) : components a = [a] :=
  List.splitOn_eq_singleton ha

lemma components_ne_nil (text : List Char) : components text ≠ [] := List.splitOn_ne_nil _ _

lemma exists_cons_components (text : List Char) : ∃ c cs, components text = c :: cs :=
  List.exists_cons_of_ne_nil (components_ne_nil text)

/-- The first of several components ends at a slash. -/
lemma exists_of_components_eq {text a b : List Char} {rest : List (List Char)}
    (h : components text = a :: b :: rest) :
    ∃ text', text = a ++ '/' :: text' ∧ '/' ∉ a ∧ components text' = b :: rest := by
  induction text generalizing a with
  | nil => cases h
  | cons c text ih =>
    by_cases hc : c = '/'
    · subst hc
      rw [components_slash] at h
      obtain ⟨rfl, hrest⟩ := List.cons.inj h
      exact ⟨text, rfl, by simp, hrest⟩
    · obtain ⟨a', cs, hcs⟩ := exists_cons_components text
      rw [components_cons hc, hcs] at h
      obtain ⟨rfl, rfl⟩ := List.cons.inj h
      obtain ⟨text', rfl, ha, htext'⟩ := ih hcs
      exact ⟨text', rfl, by simp [ha, Ne.symm hc], htext'⟩

lemma eq_of_components_eq_singleton {text a : List Char} (h : components text = [a]) :
    text = a ∧ '/' ∉ a := by
  induction text generalizing a with
  | nil =>
    obtain ⟨rfl, -⟩ := List.cons.inj h
    exact ⟨rfl, List.not_mem_nil⟩
  | cons c text ih =>
    by_cases hc : c = '/'
    · subst hc
      rw [components_slash] at h
      exact absurd (List.cons.inj h).2 (components_ne_nil text)
    · obtain ⟨a', cs, hcs⟩ := exists_cons_components text
      rw [components_cons hc, hcs] at h
      obtain ⟨rfl, rfl⟩ := List.cons.inj h
      obtain ⟨rfl, ha⟩ := ih hcs
      exact ⟨rfl, by simp [ha, Ne.symm hc]⟩

lemma components_append_slash (text text' : List Char) :
    components (text ++ '/' :: text') = components text ++ components text' := by
  induction text with
  | nil => exact components_slash text'
  | cons c text ih =>
    by_cases hc : c = '/'
    · subst hc
      rw [List.cons_append, components_slash, components_slash, ih, List.cons_append]
    · obtain ⟨a, cs, hcs⟩ := exists_cons_components text
      rw [List.cons_append, components_cons hc, components_cons hc, ih, hcs]
      rfl

/-- Between two components there is a slash. -/
lemma exists_of_components_append {text : List Char} {as bs : List (List Char)} (has : as ≠ [])
    (hbs : bs ≠ []) (h : components text = as ++ bs) :
    ∃ x y, text = x ++ '/' :: y ∧ components x = as ∧ components y = bs := by
  induction as generalizing text with
  | nil => exact absurd rfl has
  | cons a as ih =>
    obtain ⟨c, cs, hcs⟩ := List.exists_cons_of_ne_nil (List.append_ne_nil_of_right_ne_nil as hbs)
    rw [List.cons_append, hcs] at h
    obtain ⟨text', rfl, ha, htext'⟩ := exists_of_components_eq h
    rw [← hcs] at htext'
    cases as with
    | nil => exact ⟨a, text', rfl, components_of_not_mem ha, htext'⟩
    | cons b as =>
      obtain ⟨x, y, rfl, hx, hy⟩ := ih (List.cons_ne_nil b as) htext'
      exact ⟨a ++ '/' :: x, y, by simp, by rw [components_append ha, hx], hy⟩

/-- Where two texts meet, the last component of the one goes on with the first of the other. -/
lemma components_join {text text' b c : List Char} {as cs : List (List Char)}
    (h : components text = as ++ [b]) (h' : components text' = c :: cs) :
    components (text ++ text') = as ++ (b ++ c) :: cs := by
  have hmeet : ∀ {b}, '/' ∉ b → components (b ++ text') = (b ++ c) :: cs := by
    intro b hb
    induction b with
    | nil => exact h'
    | cons d b ih =>
      obtain ⟨hd, hb⟩ := not_or.mp (mt List.mem_cons.mpr hb)
      rw [List.cons_append, components_cons (Ne.symm hd), ih hb]
      rfl
  cases as with
  | nil =>
    obtain ⟨rfl, hb⟩ := eq_of_components_eq_singleton h
    exact hmeet hb
  | cons a as =>
    obtain ⟨x, y, rfl, hx, hy⟩ :=
      exists_of_components_append (List.cons_ne_nil a as) (List.cons_ne_nil b []) h
    obtain ⟨rfl, hb⟩ := eq_of_components_eq_singleton hy
    rw [List.append_assoc, List.cons_append, components_append_slash, hx, hmeet hb]

lemma slashless_of_mem_components {text c : List Char} (h : c ∈ components text) : '/' ∉ c := by
  obtain ⟨as, bs, hsplit⟩ := List.append_of_mem h
  have hlast : ∀ {text}, components text = c :: bs → '/' ∉ c := by
    intro text htext
    cases bs with
    | nil => exact (eq_of_components_eq_singleton htext).2
    | cons b bs =>
      obtain ⟨_, -, hc, -⟩ := exists_of_components_eq htext
      exact hc
  cases as with
  | nil => exact hlast hsplit
  | cons a as =>
    obtain ⟨_, _, -, -, hy⟩ :=
      exists_of_components_append (List.cons_ne_nil a as) (List.cons_ne_nil c bs) hsplit
    exact hlast hy

/-- The components determine the path. -/
lemma components_injective : Function.Injective components := by
  intro text out h
  have hjoin : ∀ text, ['/'].intercalate (components text) = text :=
    fun text => List.intercalate_splitOn '/'
  rw [← hjoin text, h, hjoin out]

/-! ### Which numbers are taken -/

def isNumber (c : List Char) : Bool := !c.isEmpty && c.all Char.isDigit

lemma isNumber_iff {c : List Char} :
    isNumber c = true ↔ c ≠ [] ∧ ∀ d ∈ c, d.isDigit = true := by
  simp [isNumber]

lemma isNumber_slashless {c : List Char} (h : isNumber c = true) : '/' ∉ c := by
  intro hmem
  have hdigit := (isNumber_iff.mp h).2 _ hmem
  revert hdigit
  decide

/-- There is a number at an index, between slashes, right after a component with a name that has a
slash before it. -/
def numbered (name : List Char) (cs : List (List Char)) (i : Nat) : Bool :=
  2 ≤ i && i + 1 < cs.length && cs[i - 1]? == some name && (cs[i]?).any isNumber

/-- The places of a kind from the left, without those that lie two places behind one of them. -/
def alternate (p : Nat → Bool) : Nat → Bool
  | 0 | 1 => false
  | i + 2 => p (i + 2) && !alternate p i

/-- The numbers that a sweep comes to. -/
def taken (name : List Char) (cs : List (List Char)) (i : Nat) : Bool :=
  alternate (numbered name cs) i

/-- Writes over the numbers after a name, from the left. -/
def numbers (name : List Char) (r : List Char → List Char) : List (List Char) → List (List Char)
  | c :: a :: d :: e :: rest =>
    if a = name ∧ isNumber d then c :: a :: r d :: numbers name r (e :: rest)
    else c :: numbers name r (a :: d :: e :: rest)
  | cs => cs

lemma numbered_cons (name c : List Char) (cs : List (List Char)) {i : Nat} (hi : 2 ≤ i) :
    numbered name (c :: cs) (i + 1) = numbered name cs i := by
  obtain ⟨j, rfl⟩ : ∃ j, i = j + 2 := ⟨i - 2, by omega⟩
  simp [numbered]

lemma taken_cons_of_not {name c : List Char} {cs : List (List Char)}
    (h : numbered name (c :: cs) 2 = false) (i : Nat) :
    taken name (c :: cs) (i + 1) = taken name cs i := by
  induction i using Nat.twoStepInduction with
  | zero => rfl
  | one => simp [taken, alternate, h]
  | more i ih _ =>
    unfold taken at ih ⊢
    rw [alternate, alternate, ih, numbered_cons name c cs (by omega)]

/-- Behind a number that is taken, the next three components begin anew. -/
lemma taken_cons_of_numbered {name c d e : List Char} {rest : List (List Char)}
    (hname : isNumber name = false) (hd : isNumber d = true) (i : Nat) :
    taken name (c :: name :: d :: e :: rest) (i + 3) = taken name (e :: rest) i := by
  have hshift : ∀ j, 2 ≤ j →
      numbered name (c :: name :: d :: e :: rest) (j + 3) = numbered name (e :: rest) j := by
    intro j hj
    rw [numbered_cons name c _ (by omega), numbered_cons name name _ (by omega),
      numbered_cons name d _ hj]
  have hne : d ≠ name := fun heq => by simp [← heq, hd] at hname
  have h₂ : numbered name (c :: name :: d :: e :: rest) 2 = true := by
    simp [numbered, hd]
  have h₃ : numbered name (c :: name :: d :: e :: rest) 3 = false := by
    simp [numbered, hne]
  unfold taken
  induction i using Nat.twoStepInduction with
  | zero => simp [alternate, h₃]
  | one => simp [alternate, h₂]
  | more i ih _ =>
    have hstep : alternate (numbered name (c :: name :: d :: e :: rest)) (i + 2 + 3) =
        (numbered name (c :: name :: d :: e :: rest) (i + 2 + 3) &&
          !alternate (numbered name (c :: name :: d :: e :: rest)) (i + 3)) := rfl
    rw [hstep, ih, hshift _ (by omega), alternate]

lemma length_numbers (name : List Char) (r : List Char → List Char) (cs : List (List Char)) :
    (numbers name r cs).length = cs.length := by
  fun_induction numbers name r cs with
  | case1 c a d e rest h ih => simp [ih]
  | case2 c a d e rest h ih => simp [ih]
  | case3 => rfl

/-- **What is written over numbers**: the ones that a sweep comes to, and nothing else. -/
lemma getElem?_numbers {name : List Char} (hname : isNumber name = false)
    (r : List Char → List Char) (cs : List (List Char)) (i : Nat) :
    (numbers name r cs)[i]? = if taken name cs i then cs[i]?.map r else cs[i]? := by
  fun_induction numbers name r cs generalizing i with
  | case1 c a d e rest h ih =>
    obtain ⟨rfl, hd⟩ := h
    have h₂ : taken a (c :: a :: d :: e :: rest) 2 = true := by
      simp [taken, alternate, numbered, hd]
    match i with
    | 0 | 1 => rfl
    | 2 => simp [h₂]
    | i + 3 =>
      rw [taken_cons_of_numbered hname hd]
      simpa using ih i
  | case2 c a d e rest h ih =>
    have h₂ : numbered name (c :: a :: d :: e :: rest) 2 = false := by
      simpa [numbered] using h
    match i with
    | 0 => rfl
    | i + 1 =>
      rw [taken_cons_of_not h₂]
      simpa using ih i
  | case3 cs hshort =>
    have hlen : cs.length ≤ 3 := by
      refine Nat.le_of_not_lt fun hlt => ?_
      match cs, hlt with
      | c :: a :: d :: e :: rest, _ => exact hshort c a d e rest rfl
    have htaken : taken name cs i = false := by
      unfold taken
      match i with
      | 0 | 1 => rfl
      | i + 2 =>
        have hshort' : ¬ i + 2 + 1 < cs.length := by omega
        simp [alternate, numbered, hshort']
    rw [htaken]
    rfl

/-! ### The two sweeps -/

lemma unsigned_of_isNumber {c : List Char} (h : isNumber c = true) : unsigned c = c := by
  obtain ⟨-, hdigits⟩ := isNumber_iff.mp h
  fun_cases unsigned c with
  | case1 rest => exact absurd (hdigits '+' List.mem_cons_self) (by decide)
  | case2 c hno => rfl

/-- What is written over a number behind the name of processes. -/
lemma pidOrStar_of_isNumber (self : UInt32) {c : List Char} (h : isNumber c = true) :
    pidOrStar self c = if decimal c < 2 ^ 32 then Edit.pidText self (decimal c) else c := by
  have hread : readPid? c = if decimal c < 2 ^ 32 then some (decimal c) else none := by
    obtain ⟨hne, hdigits⟩ := isNumber_iff.mp h
    split_ifs with hlt
    · refine readPid?_eq_some_iff.mpr ⟨isNumeral_iff.mpr ?_, hlt⟩
      rw [unsigned_of_isNumber h]
      exact ⟨hne, hdigits, rfl⟩
    · rw [Option.eq_none_iff_forall_ne_some]
      intro n hn
      obtain ⟨hnumeral, hlt'⟩ := readPid?_eq_some_iff.mp hn
      obtain ⟨-, -, hvalue⟩ := isNumeral_iff.mp hnumeral
      rw [unsigned_of_isNumber h] at hvalue
      omega
  unfold pidOrStar Edit.replacement
  dsimp only
  rw [hread]
  split_ifs <;> rfl

lemma pidText_cases (self : UInt32) (n : Nat) :
    Edit.pidText self n = ['s', 'e', 'l', 'f'] ∨ Edit.pidText self n = ['*'] := by
  unfold Edit.pidText
  split_ifs
  · exact Or.inl rfl
  · exact Or.inr rfl

lemma slashless_pidOrStar (self : UInt32) {c : List Char} (h : isNumber c = true) :
    '/' ∉ pidOrStar self c := by
  rw [pidOrStar_of_isNumber self h]
  split_ifs
  · rcases pidText_cases self (decimal c) with heq | heq
    all_goals
      rw [heq]
      decide
  · exact isNumber_slashless h

lemma numbers_modifyHead (name : List Char) (r : List Char → List Char) (f : List Char → List Char)
    (cs : List (List Char)) :
    numbers name r (cs.modifyHead f) = (numbers name r cs).modifyHead f := by
  rcases cs with _ | ⟨c, _ | ⟨a, _ | ⟨d, _ | ⟨e, rest⟩⟩⟩⟩
  any_goals rfl
  simp only [List.modifyHead_cons, numbers]
  split_ifs <;> rfl

/-- Where no match starts at a slash, no number between slashes follows with its name. -/
lemma numbers_of_noHit {name : String} {r : List Char → List Char} {text : List Char}
    (h : NoHit (segment name) ('/' :: text)) :
    numbers name.toList r ([] :: components text) =
      [] :: numbers name.toList r (components text) := by
  rcases hcs : components text with _ | ⟨a, _ | ⟨d, _ | ⟨e, rest⟩⟩⟩
  any_goals rfl
  rw [numbers, if_neg]
  rintro ⟨rfl, hd⟩
  obtain ⟨text', rfl, -, htext'⟩ := exists_of_components_eq hcs
  obtain ⟨text'', rfl, -, -⟩ := exists_of_components_eq htext'
  obtain ⟨hne, hdigits⟩ := isNumber_iff.mp hd
  refine h ⟨('/' :: name.toList) ++ ['/'], d, ['/'], text''⟩ (by simp [Hit.text, Hit.taken]) ?_
  exact ⟨List.mem_singleton_self _, List.length_pos_iff.mpr hne, hdigits,
    List.mem_singleton_self _⟩

/-- **The sweep over numbers**, component by component. -/
theorem components_of_pass {name : String} {r : List Char → List Char}
    (hname : '/' ∉ name.toList) (hr : ∀ d, isNumber d = true → '/' ∉ r d) {text out : List Char}
    (h : Pass (segment name) r text out) :
    components out = numbers name.toList r (components text) := by
  unfold Pass at h
  induction h with
  | done => rfl
  | @skip c text out none later ih =>
    -- a name can only begin behind a slash
    by_cases hc : c = '/'
    · subst hc
      rw [components_slash, components_slash, ih, numbers_of_noHit none]
    · rw [components_cons hc, components_cons hc, ih, numbers_modifyHead]
  | @hit hit out found ne later ih =>
    obtain ⟨⟨hlead, henough, hspan, htail⟩, -⟩ := found
    obtain ⟨lead, span, tail, text⟩ := hit
    obtain rfl : lead = ('/' :: name.toList) ++ ['/'] := List.mem_singleton.mp hlead
    obtain rfl : tail = ['/'] := List.mem_singleton.mp htail
    have hnumber : isNumber span = true :=
      isNumber_iff.mpr ⟨List.length_pos_iff.mp henough, hspan⟩
    have htext : (⟨('/' :: name.toList) ++ ['/'], span, ['/'], text⟩ : Hit).text =
        '/' :: (name.toList ++ '/' :: (span ++ '/' :: text)) := by
      simp [Hit.text, Hit.taken]
    have hout : ('/' :: name.toList) ++ ['/'] ++ r span ++ ['/'] ++ out =
        '/' :: (name.toList ++ '/' :: (r span ++ '/' :: out)) := by
      simp
    rw [htext, hout, components_slash, components_slash, components_append hname,
      components_append hname, components_append (hr span hnumber),
      components_append (isNumber_slashless hnumber), ih]
    obtain ⟨e, rest, hcs⟩ := exists_cons_components text
    rw [hcs, numbers, if_pos ⟨rfl, hnumber⟩]

end StablePath.Builtin
