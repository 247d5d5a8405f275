import StablePath.Proofs.Toml.Values

/-!
Writing documents.

A document is written line by line: its own entries, then sections, each a header and the entries
under it. What is read back has its own entries at their keys, and at the name of sections in double
brackets the array of their tables.
-/

namespace StablePath.Toml

/-! ### Lookups -/

namespace Entries

variable {entries : Entries} {key other : String} {value : Value}

lemma get?_append (found more : Entries) :
    (found ++ more).get? key = (found.get? key).or (more.get? key) :=
  List.lookup_append

lemma get?_cons {entry : String × Value} : get? key (entry :: entries) =
    if key = entry.1 then some entry.2 else get? key entries := by
  obtain ⟨name, held⟩ := entry
  by_cases h : key = name
  · simp [get?, h]
  · simp [get?, List.lookup_cons, h, beq_eq_false_iff_ne.mpr h]

lemma get?_of_mem (h : (entries.map Prod.fst).Nodup) (hmem : (key, value) ∈ entries) :
    entries.get? key = some value := by
  induction entries with
  | nil => cases hmem
  | cons entry entries ih =>
    obtain ⟨hnew, hkeys⟩ := List.nodup_cons.mp h
    rw [get?_cons]
    rcases List.mem_cons.mp hmem with rfl | hmem
    · rw [if_pos rfl]
    · rw [if_neg, ih hkeys hmem]
      rintro rfl
      exact hnew (List.mem_map.mpr ⟨_, hmem, rfl⟩)

lemma get?_append_of_ne (h : other ≠ key) :
    (entries ++ [(key, value)]).get? other = entries.get? other := by
  rw [get?_append, get?_cons, if_neg h]
  exact Option.or_none

lemma get?_append_self (h : entries.get? key = none) :
    (entries ++ [(key, value)]).get? key = some value := by
  rw [get?_append, get?_cons, if_pos rfl, h, Option.none_or]

lemma set_cons {entry : String × Value} : set key value (entry :: entries) =
    (if entry.1 = key then (key, value) else entry) :: set key value entries := by
  simp [set]

lemma get?_set_of_ne (h : other ≠ key) :
    (entries.set key value).get? other = entries.get? other := by
  induction entries with
  | nil => rfl
  | cons entry entries ih =>
    rw [set_cons, get?_cons, get?_cons, ih]
    by_cases hname : entry.1 = key
    · rw [if_pos hname, if_neg h, if_neg (hname ▸ h)]
    · rw [if_neg hname]

lemma get?_set (h : entries.get? key ≠ none) : (entries.set key value).get? key = some value := by
  induction entries with
  | nil => exact absurd rfl h
  | cons entry entries ih =>
    rw [set_cons, get?_cons]
    rw [get?_cons] at h
    by_cases hname : entry.1 = key
    · rw [if_pos hname, if_pos rfl]
    · rw [if_neg hname, if_neg (Ne.symm hname)]
      rw [if_neg (Ne.symm hname)] at h
      exact ih h

end Entries

/-! ### Lines -/

/-- A text spells a statement that names one key. -/
inductive Statement.Spelled : Statement → List Char → Prop
  | openTable {key name before after} (key_text : KeyText key name) (blanks : Blanks before)
      (blanks' : Blanks after) :
      Spelled (.openTable ⟨[], key⟩) ('[' :: (before ++ (name ++ (after ++ [']']))))
  | openElement {key name before after} (key_text : KeyText key name) (blanks : Blanks before)
      (blanks' : Blanks after) :
      Spelled (.openElement ⟨[], key⟩) ('[' :: '[' :: (before ++ (name ++ (after ++ [']', ']']))))
  | assign {key value text} (spells : Spells 0 (.entry key value) text) :
      Spelled (.assign ⟨[], key⟩ value) text

/-- A text spells statements, each on a line of its own, with gaps between the lines. -/
inductive SpellsLines : List Statement → List Char → Prop
  | nil {text} (gap : Gap text) : SpellsLines [] text
  | cons {statement statements before text lineEnd more} (gap : Gap before)
      (spelled : Statement.Spelled statement text) (end_of : LineEnd lineEnd)
      (rest : SpellsLines statements more) :
      SpellsLines (statement :: statements) (before ++ (text ++ (lineEnd ++ more)))

section

variable {statement : Statement} {statements : List Statement} {text rest : List Char}

lemma Statement.Spelled.front (h : statement.Spelled text) :
    ∃ c more, text = c :: more ∧ (c = '[' ∨ BeginsKey c) := by
  cases h with
  | openTable | openElement => exact ⟨_, _, rfl, Or.inl rfl⟩
  | assign spells =>
    obtain ⟨c, more, rfl, hc⟩ := spells.entry_front
    exact ⟨c, more, rfl, Or.inr hc⟩

lemma Statement.Spelled.solid (h : statement.Spelled text) : Solid (text ++ rest) := by
  obtain ⟨c, more, rfl, hc | hc⟩ := h.front
  · exact solid_cons (hc ▸ by decide)
  · exact hc.solid

lemma readStatement?_openTable {key : String} (hfront : ∀ c ∈ text.head?, c ≠ '[')
    (h : readKey? text.length text = some (⟨[], key⟩, ']' :: rest)) :
    readStatement? ('[' :: text) = some (.openTable ⟨[], key⟩, rest) := by
  rw [readStatement?]
  · simp only [h, Option.bind_eq_bind, Option.bind_some]
    rfl
  · rintro more rfl
    exact hfront '[' rfl rfl

lemma readStatement?_openElement {key : String}
    (h : readKey? text.length text = some (⟨[], key⟩, ']' :: ']' :: rest)) :
    readStatement? ('[' :: '[' :: text) = some (.openElement ⟨[], key⟩, rest) := by
  rw [readStatement?]
  simp only [h, Option.bind_eq_bind, Option.bind_some]
  rfl

lemma readStatement?_assign {key : String} {value : Value} {more : List Char}
    (hfront : ∀ c ∈ text.head?, c ≠ '[')
    (hkey : readKey? text.length text = some (⟨[], key⟩, '=' :: more))
    (hvalue : readValue? more.length 0 (dropBlanks more) = some (value, rest)) :
    readStatement? text = some (.assign ⟨[], key⟩ value, rest) := by
  rw [readStatement?]
  · simp only [hkey, hvalue, Option.bind_eq_bind, Option.bind_some]
    rfl
  · rintro more rfl
    exact hfront '[' rfl rfl
  · rintro more rfl
    exact hfront '[' rfl rfl

lemma readKey?_header {key : String} {name before after : List Char} (h : KeyText key name)
    (hbefore : Blanks before) (hafter : Blanks after) :
    readKey? (before ++ (name ++ (after ++ ']' :: rest))).length
      (before ++ (name ++ (after ++ ']' :: rest))) = some (⟨[], key⟩, ']' :: rest) := by
  refine h.readKey? hbefore hafter (by decide) (by decide) (by decide) ?_
  simp only [List.length_append, List.length_cons]
  omega

/-- **A statement is read back from its text**, up to the end of its line. -/
lemma Statement.Spelled.readStatement? (h : statement.Spelled text) (hrest : Follows rest) :
    readStatement? (text ++ rest) = some (statement, rest) := by
  cases h with
  | @openTable key name before after key_text blanks blanks' =>
    simp only [List.cons_append, List.append_assoc]
    refine readStatement?_openTable (fun c hc => ?_) (readKey?_header key_text blanks blanks')
    cases before with
    | nil =>
      obtain ⟨d, more, rfl, hd⟩ := key_text.front
      exact Option.some.inj hc ▸ hd.ne (by decide)
    | cons d before =>
      obtain rfl : d = c := Option.some.inj hc
      rintro rfl
      exact absurd (blanks '[' List.mem_cons_self) (by decide)
  | @openElement key name before after key_text blanks blanks' =>
    simp only [List.cons_append, List.append_assoc]
    exact readStatement?_openElement (readKey?_header key_text blanks blanks')
  | assign spells =>
    obtain ⟨more, hkey, hlength, hvalue⟩ := spells.readBack rest hrest
    obtain ⟨c, front, rfl, hc⟩ := spells.entry_front
    exact readStatement?_assign (fun d hd => Option.some.inj hd ▸ hc.ne (by decide))
      (hkey _ (Nat.succ_pos _)) (hvalue more.length (Nat.le_add_right _ _))

lemma SpellsLines.readStatements? (h : SpellsLines statements text) {fuel : Nat}
    (hfuel : text.length ≤ fuel) : readStatements? fuel text = some statements := by
  induction h generalizing fuel with
  | @nil text gap =>
    have hskip : skipLines? text.length (text ++ []) = some [] :=
      skipLines?_gap gap (by simp [Solid]) (Nat.le_refl _)
    rw [List.append_nil] at hskip
    cases fuel <;> simp [Toml.readStatements?, hskip]
  | @cons statement statements before text lineEnd more gap spelled end_of _ ih =>
    have hskip : skipLines? (before ++ (text ++ (lineEnd ++ more))).length
        (before ++ (text ++ (lineEnd ++ more))) = some (text ++ (lineEnd ++ more)) :=
      skipLines?_gap gap spelled.solid (by simp)
    have hread : readStatement? (text ++ (lineEnd ++ more)) = some (statement, lineEnd ++ more) :=
      spelled.readStatement? end_of.follows
    obtain ⟨c, front, rfl, -⟩ := spelled.front
    simp only [List.length_append, List.length_cons] at hfuel
    obtain ⟨fuel, rfl⟩ := Nat.exists_eq_add_one.mpr (show 0 < fuel by omega)
    rw [Toml.readStatements?, hskip, Option.bind_eq_bind, Option.bind_some]
    simp only [List.cons_append] at hread ⊢
    simp only [hread, Option.bind_eq_bind, Option.bind_some, readLineEnd?_lineEnd end_of]
    rw [ih (by omega)]
    rfl

end

/-! ### Documents -/

/-- A header, in double brackets or in single ones, and the entries under it. -/
structure Section where
  double : Bool
  name : String
  entries : Entries

/-- A document: its own entries, and sections after them. -/
structure Document where
  top : Entries
  sections : List Section

/-- The statement that gives a key its value. -/
def assignment (entry : String × Value) : Statement := .assign ⟨[], entry.1⟩ entry.2

namespace Section

def header (part : Section) : Statement :=
  if part.double then .openElement ⟨[], part.name⟩ else .openTable ⟨[], part.name⟩

def statements (part : Section) : List Statement := part.header :: part.entries.map assignment

/-- What stands at the name of a section: its table, or the array of such tables that it ends. -/
def value (part : Section) (elements : List Entries) (content : Entries) : Value :=
  if part.double then .tables (elements ++ [content]) else .table .header content

end Section

namespace Document

def statements (doc : Document) : List Statement :=
  doc.top.map assignment ++ doc.sections.flatMap Section.statements

/-- The tables that the sections of a name make up. -/
def elements (sections : List Section) (name : String) : List Entries :=
  (sections.filter (·.name == name)).map Section.entries

lemma elements_cons_self {part : Section} {sections : List Section} :
    elements (part :: sections) part.name = part.entries :: elements sections part.name := by
  simp [elements]

lemma elements_cons_of_ne {part : Section} {sections : List Section} {name : String}
    (h : part.name ≠ name) : elements (part :: sections) name = elements sections name := by
  simp [elements, h]

/-- No key of a table is given twice, and only headers in double brackets share a name. -/
structure WellFormed (doc : Document) : Prop where
  top : (doc.top.map Prod.fst).Nodup
  entries : ∀ part ∈ doc.sections, (part.entries.map Prod.fst).Nodup
  apart : ∀ part ∈ doc.sections, part.name ∉ doc.top.map Prod.fst
  shared : doc.sections.Pairwise fun part other =>
    part.name = other.name → part.double = true ∧ other.double = true

end Document

/-- The value that stands for tables in double brackets, if there are any. -/
def tables? (elements : List Entries) : Option Value :=
  if elements = [] then none else some (.tables elements)

/-- What a document stands for: at the name of sections in double brackets the array of their
tables, and at a key that names no section the value that the document gives it itself. -/
structure Document.StandsFor (doc : Document) (entries : Entries) : Prop where
  arrays : ∀ key, key ∉ doc.top.map Prod.fst →
    (∀ part ∈ doc.sections, part.name = key → part.double = true) →
    entries.get? key = tables? (elements doc.sections key)
  rest : ∀ key, key ∉ doc.sections.map Section.name → entries.get? key = doc.top.get? key

/-! ### Statements are carried out -/

section

variable {draft : Draft} {entries found more : Entries} {name key : String} {value : Value}

/-- An entry of the document itself goes to its end. -/
lemma foldlM_top (h : ((found ++ more).map Prod.fst).Nodup) :
    (more.map assignment).foldlM Draft.perform? ⟨found, []⟩ = some ⟨found ++ more, []⟩ := by
  induction more generalizing found with
  | nil => simp
  | cons entry more ih =>
    obtain ⟨key, value⟩ := entry
    have hassign : Entries.assign? [] key value .header found = some (found ++ [(key, value)]) :=
      assign?_of_new (by decide) (not_mem_of_nodup h)
    have hsplit : found ++ (key, value) :: more = found ++ [(key, value)] ++ more := by simp
    rw [hsplit] at h ⊢
    simp only [List.map_cons, List.foldlM_cons, assignment, Draft.perform?, Entries.within?,
      hassign]
    exact ih h

/-- A value at a key holds the table that is open there. -/
def Holds (name : String) (held : Entries → Value) : Prop :=
  ∀ (entries content : Entries) (change : Origin → Entries → Option Entries),
    entries.get? name = some (held content) → entries.within? false change [name] .header =
      (change .header content).map fun content => entries.set name (held content)

lemma holds_table : Holds name (.table .header) := by
  intro entries content change hget
  simp only [Entries.within?, hget]
  cases change .header content <;> rfl

/-- An array of tables holds the last one of them. -/
lemma holds_tables (elements : List Entries) :
    Holds name fun content => .tables (elements ++ [content]) := by
  intro entries content change hget
  simp only [Entries.within?, hget, List.getLast?_concat, List.dropLast_concat,
    Option.bind_eq_bind, Option.bind_some]
  cases change .header content <;> rfl

lemma Section.holds_value (part : Section) (elements : List Entries) :
    Holds part.name (part.value elements) := by
  obtain ⟨double, name, own⟩ := part
  cases double with
  | true => exact holds_tables elements
  | false => exact holds_table

/-- The entries under a header go to the table that it opened, and no other is changed. -/
lemma foldlM_under {held : Entries → Value} (hheld : Holds name held)
    (hget : entries.get? name = some (held found)) (h : ((found ++ more).map Prod.fst).Nodup) :
    ∃ entries', (more.map assignment).foldlM Draft.perform? ⟨entries, [name]⟩ =
        some ⟨entries', [name]⟩ ∧
      entries'.get? name = some (held (found ++ more)) ∧
      ∀ other, other ≠ name → entries'.get? other = entries.get? other := by
  induction more generalizing entries found with
  | nil => exact ⟨entries, rfl, by rwa [List.append_nil], fun _ _ => rfl⟩
  | cons entry more ih =>
    obtain ⟨key, value⟩ := entry
    have hassign : Entries.assign? [] key value .header found = some (found ++ [(key, value)]) :=
      assign?_of_new (by decide) (not_mem_of_nodup h)
    have hsplit : found ++ (key, value) :: more = found ++ [(key, value)] ++ more := by simp
    rw [hsplit] at h ⊢
    have hset : (entries.set name (held (found ++ [(key, value)]))).get? name =
        some (held (found ++ [(key, value)])) :=
      Entries.get?_set (by rw [hget]; exact Option.some_ne_none _)
    obtain ⟨entries', hfold, hheld', hother⟩ := ih hset h
    refine ⟨entries', ?_, hheld', fun other hne => ?_⟩
    · simp only [List.map_cons, List.foldlM_cons, assignment, Draft.perform?,
        hheld entries found _ hget, hassign]
      exact hfold
    · rw [hother other hne, Entries.get?_set_of_ne hne]

lemma tables?_concat (elements : List Entries) (last : Entries) :
    tables? (elements ++ [last]) = some (.tables (elements ++ [last])) :=
  if_neg (by simp)

lemma tables?_injective {elements elements' : List Entries}
    (h : tables? elements = tables? elements') : elements = elements' := by
  unfold tables? at h
  split_ifs at h with hnil hnil' hnil'
  · rw [hnil, hnil']
  · exact Value.tables.inj (Option.some.inj h)

/-- A header opens an empty table, as the last one of its array if it stands in double brackets. -/
lemma perform?_header (part : Section) {elements : List Entries}
    (hget : draft.entries.get? part.name = tables? elements)
    (hsingle : part.double = false → elements = []) :
    ∃ entries, draft.perform? part.header = some ⟨entries, [part.name]⟩ ∧
      entries.get? part.name = some (part.value elements []) ∧
      ∀ other, other ≠ part.name → entries.get? other = draft.entries.get? other := by
  obtain ⟨double, name, own⟩ := part
  dsimp only at hget hsingle ⊢
  -- the first table of its name is added, a further one goes to the array
  by_cases hnil : elements = []
  · subst hnil
    have hnone : draft.entries.get? name = none := hget
    refine ⟨draft.entries ++ [(name, Section.value ⟨double, name, own⟩ [] [])], ?_,
      Entries.get?_append_self hnone, fun other hne => Entries.get?_append_of_ne hne⟩
    cases double <;> simp [Section.header, Draft.perform?, Entries.openElement?, Entries.openTable?,
      Entries.within?, hnone, Section.value]
  · cases double with
    | false => exact absurd (hsingle rfl) hnil
    | true =>
      have hsome : draft.entries.get? name = some (.tables elements) := by
        rw [hget, tables?, if_neg hnil]
      refine ⟨draft.entries.set name (.tables (elements ++ [[]])), ?_,
        Entries.get?_set (by rw [hsome]; exact Option.some_ne_none _),
        fun other hne => Entries.get?_set_of_ne hne⟩
      simp [Section.header, Draft.perform?, Entries.openElement?, Entries.within?, hsome]

/-- **A section is carried out.** Its table is at its name, and nothing else is changed. -/
lemma foldlM_section (part : Section) (hkeys : (part.entries.map Prod.fst).Nodup)
    {elements : List Entries} (hget : draft.entries.get? part.name = tables? elements)
    (hsingle : part.double = false → elements = []) :
    ∃ draft', part.statements.foldlM Draft.perform? draft = some draft' ∧
      draft'.entries.get? part.name = some (part.value elements part.entries) ∧
      ∀ other, other ≠ part.name → draft'.entries.get? other = draft.entries.get? other := by
  obtain ⟨entries, hheader, hopen, hothers⟩ := perform?_header part hget hsingle
  obtain ⟨entries', hfold, hheld, hothers'⟩ := foldlM_under (part.holds_value elements) hopen hkeys
  refine ⟨⟨entries', [part.name]⟩, ?_, hheld, fun other hne => ?_⟩
  · rw [Section.statements, List.foldlM_cons, hheader]
    exact hfold
  · rw [hothers' other hne, hothers other hne]

/-- Sections are carried out, one after the other. -/
lemma foldlM_sections {sections : List Section}
    (hkeys : ∀ part ∈ sections, (part.entries.map Prod.fst).Nodup)
    (hopen : ∀ part ∈ sections, ∃ elements, draft.entries.get? part.name = tables? elements ∧
      (part.double = false → elements = []))
    (hshared : sections.Pairwise fun part other =>
      part.name = other.name → part.double = true ∧ other.double = true) :
    ∃ draft', (sections.flatMap Section.statements).foldlM Draft.perform? draft = some draft' ∧
      (∀ key elements, draft.entries.get? key = tables? elements →
        (∀ part ∈ sections, part.name = key → part.double = true) →
        draft'.entries.get? key = tables? (elements ++ Document.elements sections key)) ∧
      ∀ key, key ∉ sections.map Section.name →
        draft'.entries.get? key = draft.entries.get? key := by
  induction sections generalizing draft with
  | nil => exact ⟨draft, rfl, fun key elements hget _ => by simpa [Document.elements] using hget,
      fun _ _ => rfl⟩
  | cons part sections ih =>
    obtain ⟨elements, hget, hsingle⟩ := hopen part List.mem_cons_self
    obtain ⟨draft₁, hfold, hheld, hothers⟩ :=
      foldlM_section part (hkeys part List.mem_cons_self) hget hsingle
    obtain ⟨hapart, hshared⟩ := List.pairwise_cons.mp hshared
    have hopen' : ∀ other ∈ sections, ∃ elements, draft₁.entries.get? other.name =
        tables? elements ∧ (other.double = false → elements = []) := by
      intro other hmem
      by_cases hname : part.name = other.name
      · -- one more table of the array that this section goes on with
        obtain ⟨hdouble, hother⟩ := hapart other hmem hname
        refine ⟨elements ++ [part.entries], ?_, fun hno => Bool.noConfusion (hother.symm.trans hno)⟩
        rw [← hname, hheld, tables?_concat, Section.value, if_pos hdouble]
      · rw [hothers _ (Ne.symm hname)]
        exact hopen other (List.mem_cons_of_mem part hmem)
    obtain ⟨draft₂, hfold₂, harrays, hrest⟩ :=
      ih (fun other hmem => hkeys other (List.mem_cons_of_mem part hmem)) hopen' hshared
    refine ⟨draft₂, ?_, fun key elements' hkey hdouble => ?_, fun key hkey => ?_⟩
    · rw [List.flatMap_cons, List.foldlM_append, hfold]
      exact hfold₂
    · have hdouble' : ∀ other ∈ sections, other.name = key → other.double = true :=
        fun other hmem => hdouble other (List.mem_cons_of_mem part hmem)
      by_cases hname : part.name = key
      · subst hname
        obtain rfl := tables?_injective (hget.symm.trans hkey)
        have hvalue : draft₁.entries.get? part.name = tables? (elements ++ [part.entries]) := by
          rw [hheld, tables?_concat, Section.value, if_pos (hdouble part List.mem_cons_self rfl)]
        rw [harrays part.name _ hvalue hdouble', Document.elements_cons_self, List.append_assoc]
        rfl
      · rw [Document.elements_cons_of_ne hname]
        exact harrays key elements' ((hothers key (Ne.symm hname)).trans hkey) hdouble'
    · rw [List.map_cons, List.mem_cons, not_or] at hkey
      rw [hrest key hkey.2, hothers key hkey.1]

/-! ### Documents are read back -/

lemma Gap.front {gap : List Char} (h : Gap gap) : ∀ c ∈ gap.head?, isScalarEnd c = true := by
  cases h with
  | nil => simp
  | blank blank => exact fun c hc => Option.some.inj hc ▸ isScalarEnd_of_isBlank blank
  | newline | comment => exact fun c hc => Option.some.inj hc ▸ by decide

/-- Lines begin with no mark of the byte order. -/
lemma SpellsLines.dropByteOrderMark {statements : List Statement} {text : List Char}
    (h : SpellsLines statements text) : dropByteOrderMark text = text := by
  have hfront : ∀ c ∈ text.head?, c ≠ '\uFEFF' := by
    cases h with
    | nil gap =>
      rintro c hc rfl
      exact absurd (gap.front _ hc) (by decide)
    | @cons statement statements before text lineEnd more gap spelled =>
      cases before with
      | nil =>
        obtain ⟨d, front, rfl, hd | hd⟩ := spelled.front
        · exact fun c hc => Option.some.inj hc ▸ hd ▸ by decide
        · exact fun c hc => Option.some.inj hc ▸ hd.ne (by decide)
      | cons d before =>
        rintro c hc rfl
        exact absurd (gap.front '\uFEFF' hc) (by decide)
  unfold Toml.dropByteOrderMark
  split
  · exact absurd rfl (hfront _ rfl)
  · rfl

/-- **A document is read back from its text**, as entries that it stands for. -/
theorem Document.WellFormed.read? {doc : Document} (h : doc.WellFormed) {text : List Char}
    (hspells : SpellsLines doc.statements text) :
    ∃ entries, read? text = some entries ∧ doc.StandsFor entries := by
  have htop : (doc.top.map assignment).foldlM Draft.perform? {} = some ⟨doc.top, []⟩ := by
    have hkeys : (([] ++ doc.top).map Prod.fst).Nodup := h.top
    simpa using foldlM_top hkeys
  have hopen : ∀ part ∈ doc.sections, ∃ elements,
      (⟨doc.top, []⟩ : Draft).entries.get? part.name = tables? elements ∧
        (part.double = false → elements = []) := fun part hmem =>
    ⟨[], Entries.get?_eq_none_iff.mpr (h.apart part hmem), fun _ => rfl⟩
  obtain ⟨draft, hfold, harrays, hrest⟩ := foldlM_sections h.entries hopen h.shared
  refine ⟨draft.entries, ?_, fun key hkey hdouble => ?_, hrest⟩
  · rw [Toml.read?, hspells.dropByteOrderMark]
    simp only [hspells.readStatements? (Nat.le_refl _), Option.bind_eq_bind, Option.bind_some]
    rw [Document.statements, List.foldlM_append, htop, Option.bind_eq_bind, Option.bind_some, hfold]
    rfl
  · exact harrays key [] (Entries.get?_eq_none_iff.mpr hkey) hdouble

/-! ### What can be written -/

lemma exists_spellsLines {statements : List Statement}
    (h : ∀ statement ∈ statements, ∃ text, Statement.Spelled statement text) :
    ∃ text, SpellsLines statements text := by
  induction statements with
  | nil => exact ⟨_, .nil .nil⟩
  | cons statement statements ih =>
    obtain ⟨⟨text, htext⟩, hmore⟩ := List.forall_mem_cons.mp h
    obtain ⟨more, hmore⟩ := ih hmore
    exact ⟨_, .cons .nil htext .newline hmore⟩

lemma Section.exists_header (part : Section) : ∃ text, part.header.Spelled text := by
  obtain ⟨name, hname⟩ := exists_quoted part.name
  have hnone : Blanks [] := by simp [Blanks]
  unfold Section.header
  split_ifs
  · exact ⟨_, .openElement (.quoted hname) hnone hnone⟩
  · exact ⟨_, .openTable (.quoted hname) hnone hnone⟩

lemma Document.exists_spells {doc : Document}
    (htop : ∀ entry ∈ doc.top, ∃ text, Spells 0 (.value entry.2) text)
    (hsections : ∀ part ∈ doc.sections, ∀ entry ∈ part.entries,
      ∃ text, Spells 0 (.value entry.2) text) :
    ∃ text, SpellsLines doc.statements text := by
  have hassignment : ∀ entry : String × Value, (∃ text, Spells 0 (.value entry.2) text) →
      ∃ text, (assignment entry).Spelled text := by
    intro entry hentry
    obtain ⟨text, htext⟩ := exists_spells_entry entry.1 hentry
    exact ⟨text, .assign htext⟩
  refine exists_spellsLines fun statement hmem => ?_
  rcases List.mem_append.mp hmem with hmem | hmem
  · obtain ⟨entry, hentry, rfl⟩ := List.mem_map.mp hmem
    exact hassignment entry (htop entry hentry)
  · obtain ⟨part, hpart, hmem⟩ := List.mem_flatMap.mp hmem
    rcases List.mem_cons.mp hmem with rfl | hmem
    · exact part.exists_header
    · obtain ⟨entry, hentry, rfl⟩ := List.mem_map.mp hmem
      exact hassignment entry (hsections part hpart entry hentry)

end

end StablePath.Toml
