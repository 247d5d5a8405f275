import StablePath.Proofs.Pattern.Brackets
import StablePath.Proofs.Pattern.Steps

/-!
Matches as parts of a text.

`Finds` says of a term which parts of a text its matches are, whatever stands before them. It is
shown here for texts around a group that is a run of a class.
-/

namespace StablePath.Pattern

open Text

/-- A match at the start of a text: what it takes before a group, the text of the group, what it
takes after the group, and the rest of the text. -/
structure Hit where
  lead : List Char
  span : List Char
  tail : List Char
  rest : List Char

namespace Hit

/-- The text of the match. -/
def taken (hit : Hit) : List Char := hit.lead ++ hit.span ++ hit.tail

def text (hit : Hit) : List Char := hit.taken ++ hit.rest

lemma lead_isPrefix (hit : Hit) : hit.lead <+: hit.text :=
  ⟨hit.span ++ hit.tail ++ hit.rest, by simp [text, taken]⟩

end Hit

/-- A match from a byte offset on, with its group `g`, is what a trail says. -/
structure Hit.Leaves (hit : Hit) (g offset : Nat) (trail : Trail) : Prop where
  ne : hit.taken ≠ []
  stop : trail.lastClosed 0 = some (offset + width hit.taken)
  span : trail.span g =
    some (offset + width hit.lead, offset + width hit.lead + width hit.span)

/-- Where a term matches, the match is not empty and `H` holds of it, seen from group `g`; where it
does not match, `N` holds of the text that follows. -/
def Term.Finds (t : Term) (g : Nat) (H : Hit → Prop) (N : List Char → Prop) : Prop :=
  ∀ before offset text, (t.matchAt? before offset text = none ∧ N text) ∨
    ∃ hit trail, hit.text = text ∧ H hit ∧ t.matchAt? before offset text = some trail ∧
      hit.Leaves g offset trail

/-! ### Texts around a run -/

/-- One of some texts, at least `lo` characters of a class, and one of some texts. -/
structure Around (leads : List (List Char)) (lo : Nat) (p : Char → Bool)
    (tails : List (List Char)) (hit : Hit) : Prop where
  lead : hit.lead ∈ leads
  enough : lo ≤ hit.span.length
  span : ∀ c ∈ hit.span, p c = true
  tail : hit.tail ∈ tails

/-- Of a shape, and no run from the same place is longer. -/
def Longest (shape : Hit → Prop) (hit : Hit) : Prop :=
  shape hit ∧ ∀ other, shape other → other.text = hit.text → other.lead = hit.lead →
    other.span.length ≤ hit.span.length

/-- No match of a shape starts a text. -/
def NoHit (shape : Hit → Prop) (text : List Char) : Prop :=
  ∀ hit : Hit, hit.text = text → ¬ shape hit

/-- The terms that match the characters of a text one by one. -/
def Term.literal (text : List Char) : List Term := text.map fun c => .oneOf (.single c)

lemma Term.words?_literal (text : List Char) :
    (concat (literal text)).words? = some [exactly text] := by
  induction text with
  | nil => rfl
  | cons c text ih =>
    cases text with
    | nil => rfl
    | cons d text =>
      have hcat : concat (literal (c :: d :: text)) =
          .cat (.oneOf (.single c)) (concat (literal (d :: text))) := rfl
      rw [hcat, Term.words?, ih]
      rfl

lemma Term.concat_cons {t : Term} {ts : List Term} (h : ts ≠ []) :
    concat (t :: ts) = .cat t (concat ts) := by
  cases ts with
  | nil => exact absurd rfl h
  | cons u ts => rfl

namespace Thread

variable {ts us : List Term} {L T : List (List CharSet)} {trail : Trail}

lemma firstAt?_concat (hts : (Term.concat ts).words? = some L) (hus : us ≠ [])
    {rest : List Frame} (hrest : Still rest) (p : Place) :
    firstAt? ⟨.run (.concat (ts ++ us)) :: rest, trail⟩ p =
      L.findSome? fun w => (p.read w).bind (firstAt? ⟨.run (.concat us) :: rest, trail⟩) := by
  induction ts generalizing L p with
  | nil =>
    obtain rfl := Option.some.inj hts
    simp [Place.read]
  | cons t ts ih =>
    rw [List.cons_append, Term.concat_cons (by simp [hus]), firstAt?_cat]
    cases ts with
    | nil => exact firstAt?_words hts (hrest.run _) p
    | cons u ts =>
      obtain ⟨v, hv, hws⟩ := Option.bind_eq_some_iff.mp hts
      obtain ⟨w, hw, rfl⟩ := Option.map_eq_some_iff.mp hws
      rw [firstAt?_words hv (hrest.run _), findSome?_products]
      congr 1
      funext x
      exact congrArg _ (funext fun q => ih hw q)

/-- A group around a run, and the words after it. -/
lemma firstAt?_span (hus : (Term.concat us).words? = some T) (g lo : Nat) (s : CharSet)
    (p : Place) :
    firstAt? ⟨[.run (.concat (.group g (.times lo none true (.oneOf s)) :: us)), .close 0],
        trail⟩ p =
      p.times lo s fun q => T.findSome? fun w => (q.read w).bind fun r =>
        some (.closed 0 r.offset :: .closed g q.offset :: .opened g p.offset :: trail) := by
  have hlast : ∀ (trail : Trail) (r : Place),
      firstAt? ⟨[.close 0], trail⟩ r = some (.closed 0 r.offset :: trail) := fun trail r => by
    rw [firstAt?_close, firstAt?_nil]
  cases us with
  | nil =>
    obtain rfl := Option.some.inj hus
    rw [Term.concat, firstAt?_group, firstAt?_times ((Still.nil.close 0).close g)]
    congr 1
    funext q
    rw [firstAt?_close, hlast]
    rfl
  | cons u us =>
    rw [Term.concat_cons (by simp), firstAt?_cat, firstAt?_group,
      firstAt?_times (((Still.nil.close 0).run _).close g)]
    congr 1
    funext q
    rw [firstAt?_close, firstAt?_words hus (Still.nil.close 0)]
    congr 1
    funext w
    exact congrArg _ (funext fun r => hlast _ r)

end Thread

lemma Term.matchAt?_concat {ts us : List Term} {L T : List (List CharSet)} {lo : Nat} {s : CharSet}
    (hts : (concat ts).words? = some L) (hus : (concat us).words? = some T)
    (before : Option Char) (offset : Nat) (text : List Char) :
    (concat (ts ++ .group 1 (.times lo none true (.oneOf s)) :: us)).matchAt? before offset text =
      L.findSome? fun w => ((⟨before, offset, text⟩ : Place).read w).bind fun p =>
        p.times lo s fun q => T.findSome? fun w => (q.read w).bind fun r =>
          some [.closed 0 r.offset, .closed 1 q.offset, .opened 1 p.offset, .opened 0 offset] := by
  rw [Term.matchAt?_eq_first?]
  refine (Thread.firstAt?_group (p := ⟨before, offset, text⟩) 0 _).trans ?_
  rw [Thread.firstAt?_concat hts (by simp) (Still.nil.close 0)]
  congr 1
  funext w
  exact congrArg _ (funext fun p => Thread.firstAt?_span hus 1 lo s p)

section

variable {ts us : List Term} {leads tails : List (List Char)} {lo : Nat} {s : CharSet}
  {p : Char → Bool}

/-- **Texts around a run.** A match takes the longest run that one of the texts follows. -/
theorem Term.finds_concat (hts : (concat ts).words? = some (leads.map exactly))
    (hus : (concat us).words? = some (tails.map exactly)) (hs : ∀ c, s.contains c.toNat = p c)
    (hne : [] ∉ leads) :
    (concat (ts ++ .group 1 (.times lo none true (.oneOf s)) :: us)).Finds 1
      (Longest (Around leads lo p tails)) (NoHit (Around leads lo p tails)) := by
  intro before offset text
  rw [matchAt?_concat hts hus]
  generalize hfound : (List.findSome? _ (leads.map exactly) : Option Trail) = found
  cases found with
  | none =>
    -- the way that reads this match would have been found
    refine Or.inl ⟨rfl, fun hit htext hshape => ?_⟩
    obtain ⟨lead, span, tail, rest⟩ := hit
    have hsplit : text = lead ++ (span ++ (tail ++ rest)) := by
      simpa [Hit.text, Hit.taken] using htext.symm
    have htimes := Place.findSome?_exactly_eq_none_iff.mp hfound lead hshape.lead _ hsplit
    have hlast := Place.times_eq_none htimes rfl hshape.enough fun c hc =>
      (hs c).trans (hshape.span c hc)
    have hnone := Place.findSome?_exactly_eq_none_iff.mp hlast tail hshape.tail rest rfl
    cases hnone
  | some trail =>
    obtain ⟨lead, hlead, more, htext, htimes⟩ := Place.exists_of_findSome?_exactly hfound
    obtain ⟨span, more', hmore, henough, hspan, hlast, hlongest⟩ := Place.times_eq_some htimes
    obtain ⟨tail, htail, rest, hrest, htrail⟩ := Place.exists_of_findSome?_exactly hlast
    obtain rfl : text = lead ++ more := htext
    obtain rfl : more = span ++ more' := hmore
    obtain rfl : more' = tail ++ rest := hrest
    obtain rfl := Option.some.inj htrail
    refine Or.inr ⟨⟨lead, span, tail, rest⟩, _, by simp [Hit.text, Hit.taken],
      ⟨⟨hlead, henough, fun c hc => (hs c).symm.trans (hspan c hc), htail⟩, ?_⟩, rfl, ?_, ?_, ?_⟩
    · -- longer runs of the class are tried first
      intro other hshape htext' hlead'
      obtain ⟨lead', span', tail', rest'⟩ := other
      obtain rfl : lead' = lead := hlead'
      refine Nat.le_of_not_lt fun hlt => ?_
      have hsame : span ++ (tail ++ rest) = span' ++ (tail' ++ rest') := by
        simpa [Hit.text, Hit.taken] using htext'.symm
      have hlonger := hlongest span' _ hsame hshape.enough
        (fun c hc => (hs c).trans (hshape.span c hc)) hlt
      have hnone := Place.findSome?_exactly_eq_none_iff.mp hlonger tail' hshape.tail rest' rfl
      cases hnone
    · intro hnil
      simp only [Hit.taken, List.append_eq_nil_iff] at hnil
      exact hne (hnil.1.1 ▸ hlead)
    · simp [Trail.lastClosed, Hit.taken, Place.after, Nat.add_assoc]
    · simp [Trail.span_eq_some_iff, Trail.lastClosed, Trail.lastOpened, Place.after, Nat.add_assoc]

end

/-! ### One match at a place -/

/-- There is one match at a place or none. -/
structure Exact (H : Hit → Prop) (N : List Char → Prop) : Prop where
  unique : ∀ hit other, H hit → H other → hit.text = other.text → hit = other
  none : ∀ hit, H hit → ¬ N hit.text

/-- Of some texts none begins with another one. -/
def PrefixFree (texts : List (List Char)) : Prop := ∀ u ∈ texts, ∀ v ∈ texts, u <+: v → u = v

instance (texts : List (List Char)) : Decidable (PrefixFree texts) :=
  inferInstanceAs (Decidable (∀ u ∈ texts, ∀ v ∈ texts, u <+: v → u = v))

lemma PrefixFree.eq {texts : List (List Char)} (h : PrefixFree texts) {u v x y : List Char}
    (hu : u ∈ texts) (hv : v ∈ texts) (heq : u ++ x = v ++ y) : u = v ∧ x = y := by
  have hsame : u = v := by
    rcases List.append_eq_append_iff.mp heq with ⟨w, rfl, -⟩ | ⟨w, rfl, -⟩
    · exact h u hu _ hv (List.prefix_append _ _)
    · exact (h v hv _ hu (List.prefix_append _ _)).symm
  subst hsame
  exact ⟨rfl, List.append_cancel_left heq⟩

section

variable {leads tails : List (List Char)} {lo : Nat} {p : Char → Bool}

lemma longest_unique (hleads : PrefixFree leads) (htails : PrefixFree tails) {hit other : Hit}
    (h : Longest (Around leads lo p tails) hit) (h' : Longest (Around leads lo p tails) other)
    (htext : hit.text = other.text) : hit = other := by
  obtain ⟨lead, span, tail, rest⟩ := hit
  obtain ⟨lead', span', tail', rest'⟩ := other
  obtain ⟨hshape, hlongest⟩ := h
  obtain ⟨hshape', hlongest'⟩ := h'
  have hsplit : lead ++ (span ++ (tail ++ rest)) = lead' ++ (span' ++ (tail' ++ rest')) := by
    simpa [Hit.text, Hit.taken] using htext
  obtain ⟨rfl, hmore⟩ := hleads.eq hshape.lead hshape'.lead hsplit
  have hle := hlongest _ hshape' htext.symm rfl
  have hle' := hlongest' _ hshape htext rfl
  obtain ⟨rfl, hlast⟩ := List.append_inj hmore (Nat.le_antisymm hle' hle)
  obtain ⟨rfl, rfl⟩ := htails.eq hshape.tail hshape'.tail hlast
  rfl

/-- Where no text before a run begins with another one, and none after it, only one match is the
longest. -/
lemma exact_longest (hleads : PrefixFree leads) (htails : PrefixFree tails) :
    Exact (Longest (Around leads lo p tails)) (NoHit (Around leads lo p tails)) where
  unique _ _ h h' htext := longest_unique hleads htails h h' htext
  none hit h hnone := hnone hit rfl h.1

end

end StablePath.Pattern
