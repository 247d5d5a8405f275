import StablePath.Proofs.Config.Reading
import StablePath.Proofs.Toml.Documents

/-!
Writing configurations.

A configuration is written as a document that has its values at their keys, in any order. Options
that are not given are left out, flags that are not set may be, and keys that are not known may
stand anywhere. The rules are sections of their own or the tables of one array.
-/

namespace StablePath

open Toml

/-! ### Fields -/

/-- Fields of a table: their keys, and their values if they are given. -/
abbrev Fields := List (String × Option Value)

/-- The entries of the fields that are given. -/
def Fields.given (fields : Fields) : Entries :=
  fields.filterMap fun field => field.2.map (field.1, ·)

/-- Entries give the values of fields, in any order and among others with keys of their own. -/
structure Gives (entries : Entries) (fields : Fields) : Prop where
  perm : ∃ others, entries.Perm (fields.given ++ others) ∧
    ∀ entry ∈ others, entry.1 ∉ fields.map Prod.fst
  nodup : (entries.map Prod.fst).Nodup

/-- The value of a flag. If the flag is not set, it is given only if it is kept. -/
def flag? (kept b : Bool) : Option Value := if b || kept then some (.boolean b) else none

section

variable {entries : Entries} {fields : Fields} {key : String} {value : Value}

lemma mem_given_iff : (key, value) ∈ fields.given ↔ (key, some value) ∈ fields := by
  simp only [Fields.given, List.mem_filterMap, Option.map_eq_some_iff, Prod.mk.injEq, Prod.exists]
  constructor
  · rintro ⟨_, _, hmem, _, rfl, rfl, rfl⟩
    exact hmem
  · intro hmem
    exact ⟨key, some value, hmem, value, rfl, rfl, rfl⟩

lemma given_keys_sublist (fields : Fields) :
    (fields.given.map Prod.fst).Sublist (fields.map Prod.fst) := by
  induction fields with
  | nil => exact .slnil
  | cons field fields ih =>
    obtain ⟨key, value⟩ := field
    cases value with
    | none => exact ih.cons key
    | some value => exact ih.cons_cons key

/-- What is looked up at the key of a field is its value, if it is given. -/
lemma Gives.get? (h : Gives entries fields) (hfields : (fields.map Prod.fst).Nodup)
    {value : Option Value} (hmem : (key, value) ∈ fields) : entries.get? key = value := by
  obtain ⟨others, hperm, hothers⟩ := h.perm
  cases value with
  | some value =>
    refine Entries.get?_of_mem h.nodup (hperm.mem_iff.mpr (List.mem_append_left _ ?_))
    exact mem_given_iff.mpr hmem
  | none =>
    rw [Entries.get?_eq_none_iff]
    intro hkey
    obtain ⟨⟨_, value⟩, hentry, rfl⟩ := List.mem_map.mp hkey
    rcases List.mem_append.mp (hperm.mem_iff.mp hentry) with hgiven | hother
    · have hsame := List.inj_on_of_nodup_map hfields hmem (mem_given_iff.mp hgiven) rfl
      cases hsame
    · exact hothers _ hother (List.mem_map_of_mem hmem)

lemma flagged_of_get? (kept : Bool) {b : Bool} (h : entries.get? key = flag? kept b) :
    Flagged entries key b := by
  unfold flag? at h
  split_ifs at h with hgiven
  · exact Or.inl h
  · exact Or.inr ⟨h, by simpa using (Bool.or_eq_false_iff.mp (Bool.eq_false_iff.mpr hgiven)).1⟩

lemma gives_given (h : (fields.map Prod.fst).Nodup) : Gives fields.given fields :=
  ⟨⟨[], by simp, by simp⟩, h.sublist (given_keys_sublist fields)⟩

end

/-! ### What is written -/

namespace RuleEntry

/-- The fields of a rule. -/
def written (kept : Bool) (entry : RuleEntry) : Fields :=
  [("name", entry.name.map .string), ("pattern", some (.string entry.pattern)),
    ("hint", entry.hint.map .string), ("filesystem", entry.filesystem.map .string),
    ("min_hex_run", entry.minHexRun.map ofSize), ("group", entry.group.map ofSize),
    ("replacement", entry.replacement.map .string), ("pid_aware", flag? kept entry.pidAware)]

/-- The numbers of an entry have 64 bits. -/
def Sized (entry : RuleEntry) : Prop :=
  (∀ n ∈ entry.minHexRun, n < 2 ^ 64) ∧ ∀ n ∈ entry.group, n < 2 ^ 64

/-- A table is a rule as it may be written, whether a flag that is not set is kept or not. -/
def Written (entry : RuleEntry) (entries : Entries) : Prop :=
  ∃ kept, Gives entries (entry.written kept)

end RuleEntry

namespace Config

/-- The fields of a document. The rules are one of them unless they are sections. -/
def written (keptRoot keptBuiltin : Bool) (rules : Option Value) (config : Config) : Fields :=
  [("root", flag? keptRoot config.root),
    ("disable-builtin-rules", flag? keptBuiltin config.disableBuiltin),
    ("root-config-lookup-disable-env-var", config.homeSwitch.map .string), ("rules", rules)]

/-- The keys of a document that are known. -/
def keys : List String :=
  ["root", "disable-builtin-rules", "root-config-lookup-disable-env-var", "rules"]

/-- The spellings of the rules. -/
inductive Spelling
  /-- Each is a section under a header in double brackets. -/
  | headers
  /-- They are tables in braces, and these the items of one array. -/
  | inline

/-- A document is a configuration as it may be written. Sections other than those of rules have
names that are not known. -/
inductive Written (config : Config) (doc : Document) : Spelling → Prop
  | headers {keptRoot keptBuiltin}
      (top : Gives doc.top (config.written keptRoot keptBuiltin none))
      (rules : List.Forall₂ RuleEntry.Written config.rules (Document.elements doc.sections "rules"))
      (others : ∀ part ∈ doc.sections, part.name ∈ keys →
        part.name = "rules" ∧ part.double = true) : Written config doc .headers
  | inline {keptRoot keptBuiltin tables}
      (top : Gives doc.top (config.written keptRoot keptBuiltin
        (some (.array (tables.map (.table .inline))))))
      (rules : List.Forall₂ RuleEntry.Written config.rules tables)
      (others : ∀ part ∈ doc.sections, part.name ∉ keys) : Written config doc .inline

/-- A text spells a configuration. -/
def SpelledBy (config : Config) (spelling : Spelling) (text : String) : Prop :=
  ∃ doc : Document, doc.WellFormed ∧ config.Written doc spelling ∧
    SpellsLines doc.statements text.toList

end Config

/-! ### What is written is read back -/

namespace RuleEntry

variable {entry : RuleEntry} {entries : Entries}

lemma nodup_written (entry : RuleEntry) (kept : Bool) :
    ((entry.written kept).map Prod.fst).Nodup := by
  show ["name", "pattern", "hint", "filesystem", "min_hex_run", "group", "replacement",
    "pid_aware"].Nodup
  decide

lemma Written.ofTable (h : entry.Written entries) (hsized : entry.Sized) :
    OfTable entries entry := by
  obtain ⟨kept, h⟩ := h
  have hget : ∀ {key value}, (key, value) ∈ entry.written kept → entries.get? key = value :=
    fun hmem => h.get? (entry.nodup_written kept) hmem
  exact {
    name := hget (by simp [written])
    pattern := hget (by simp [written])
    hint := hget (by simp [written])
    filesystem := hget (by simp [written])
    minHexRun := ⟨hget (by simp [written]), hsized.1⟩
    group := ⟨hget (by simp [written]), hsized.2⟩
    replacement := hget (by simp [written])
    pidAware := flagged_of_get? kept (hget (by simp [written])) }

end RuleEntry

namespace Config

variable {config : Config} {doc : Document} {entries : Entries} {spelling : Spelling}

lemma keys_written (config : Config) (keptRoot keptBuiltin : Bool) (rules : Option Value) :
    (config.written keptRoot keptBuiltin rules).map Prod.fst = keys := rfl

lemma nodup_keys : keys.Nodup := by decide

/-- A document has at the key of each field its value. -/
lemma get?_of_gives {keptRoot keptBuiltin : Bool} {rules : Option Value}
    (h : Gives doc.top (config.written keptRoot keptBuiltin rules)) {key : String}
    {value : Option Value} (hmem : (key, value) ∈ config.written keptRoot keptBuiltin rules) :
    doc.top.get? key = value :=
  h.get? nodup_keys hmem

/-- The rules are read back from their tables, however these came about. -/
lemma describes_of_written {tables : List Entries} (hsized : ∀ entry ∈ config.rules, entry.Sized)
    (h : List.Forall₂ RuleEntry.Written config.rules tables) (origin : Toml.Origin) :
    List.Forall₂ RuleEntry.Describes (tables.map (.table origin)) config.rules := by
  rw [List.forall₂_map_left_iff]
  have hboth := (List.forall₂_and_left _ _).mpr ⟨hsized, h⟩
  exact hboth.flip.imp fun table entry ⟨hentry, hwritten⟩ => .table (hwritten.ofTable hentry)

/-- A document whose own entries are those of a configuration has its values but for the rules. -/
lemma OfDocument.of_gives {keptRoot keptBuiltin : Bool} {rules : Option Value}
    (htop : Gives doc.top (config.written keptRoot keptBuiltin rules))
    (hsame : ∀ key ∈ keys, key ≠ "rules" → entries.get? key = doc.top.get? key)
    (hrules : entries.get? "rules" = none ∧ config.rules = [] ∨
      ∃ value items, entries.get? "rules" = some value ∧ Lists value items ∧
        List.Forall₂ RuleEntry.Describes items config.rules) :
    OfDocument entries config := by
  have hget : ∀ {key value}, key ≠ "rules" →
      (key, value) ∈ config.written keptRoot keptBuiltin rules → entries.get? key = value := by
    intro key value hne hmem
    have hkey : key ∈ keys := by
      rw [← config.keys_written keptRoot keptBuiltin rules]
      exact List.mem_map.mpr ⟨_, hmem, rfl⟩
    rw [hsame key hkey hne, get?_of_gives htop hmem]
  exact {
    root := flagged_of_get? keptRoot (hget (by decide) (by simp [written]))
    disableBuiltin := flagged_of_get? keptBuiltin (hget (by decide) (by simp [written]))
    homeSwitch := hget (by decide) (by simp [written])
    rules := hrules }

/-- A document that is a configuration is read as one that has its values. -/
lemma Written.ofDocument (h : config.Written doc spelling)
    (hsized : ∀ entry ∈ config.rules, entry.Sized)
    (hentries : doc.StandsFor entries) : OfDocument entries config := by
  cases h with
  | headers top rules others =>
    refine .of_gives top (fun key hkey hne => hentries.rest key fun hname => ?_) ?_
    · obtain ⟨part, hpart, rfl⟩ := List.mem_map.mp hname
      exact hne (others part hpart hkey).1
    · have hnone : "rules" ∉ doc.top.map Prod.fst :=
        Entries.get?_eq_none_iff.mp (get?_of_gives top (by simp [written]))
      have hdouble : ∀ part ∈ doc.sections, part.name = "rules" → part.double = true :=
        fun part hpart hname => (others part hpart (hname ▸ by decide)).2
      rw [hentries.arrays "rules" hnone hdouble]
      generalize Document.elements doc.sections "rules" = elements at rules
      cases elements with
      | nil => exact Or.inl ⟨rfl, List.forall₂_nil_right_iff.mp rules⟩
      | cons first more =>
        exact Or.inr ⟨_, _, rfl, .tables _, describes_of_written hsized rules .header⟩
  | inline top rules others =>
    have hothers : ∀ key ∈ keys, key ∉ doc.sections.map Section.name := by
      intro key hkey hname
      obtain ⟨part, hpart, rfl⟩ := List.mem_map.mp hname
      exact others part hpart hkey
    refine .of_gives top (fun key hkey _ => hentries.rest key (hothers key hkey)) (Or.inr ⟨_, _, ?_,
      .array _, describes_of_written hsized rules .inline⟩)
    rw [hentries.rest "rules" (hothers "rules" (by decide))]
    exact get?_of_gives top (by simp [written])

/-- What spells a configuration describes it. -/
lemma SpelledBy.describes {text : String} (h : config.SpelledBy spelling text)
    (hsized : ∀ entry ∈ config.rules, entry.Sized) : Describes text config := by
  obtain ⟨doc, hdoc, hwritten, hspells⟩ := h
  obtain ⟨entries, hread, hentries⟩ := hdoc.read? hspells
  exact ⟨entries, hread, hwritten.ofDocument hsized hentries⟩

/-- A configuration passes its check if all its rules can be made. -/
lemma check_eq_ok_iff_toRule : config.check = .ok () ↔
    ∀ entry ∈ config.rules, ∃ rule, entry.toRule = .ok rule := by
  rw [check_eq_ok_iff]
  refine forall₂_congr fun entry _ => ?_
  rw [← RuleEntry.forall_not_firstFault_iff]
  simp only [← RuleEntry.toRule_eq_error_iff]
  cases entry.toRule <;> simp

end Config

/-! ### What can be written -/

/-- A value without parts. -/
inductive Scalar : Value → Prop
  | string (s : String) : Scalar (.string s)
  | number {n : Nat} (bound : n < 2 ^ 128) : Scalar (.integer n)
  | flag (b : Bool) : Scalar (.boolean b)

lemma Scalar.exists_spells {value : Value} (h : Scalar value) (depth : Nat) :
    ∃ text, Spells depth (.value value) text := by
  cases h with
  | string s =>
    obtain ⟨text, htext⟩ := Toml.exists_quoted s
    exact ⟨text, .string htext⟩
  | number bound => exact ⟨_, .number bound⟩
  | flag b => exact ⟨_, .flag b⟩

lemma scalar_strings (found : Option String) : ∀ value ∈ found.map Value.string, Scalar value := by
  rintro value hvalue
  obtain ⟨s, -, rfl⟩ := Option.map_eq_some_iff.mp hvalue
  exact .string s

lemma scalar_sizes {found : Option Nat} (h : ∀ n ∈ found, n < 2 ^ 64) :
    ∀ value ∈ found.map ofSize, Scalar value := by
  rintro value hvalue
  obtain ⟨n, hn, rfl⟩ := Option.map_eq_some_iff.mp hvalue
  exact .number (Nat.lt_trans (h n hn) (by decide))

lemma scalar_flag (kept b : Bool) : ∀ value ∈ flag? kept b, Scalar value := by
  rintro value hvalue
  unfold flag? at hvalue
  split_ifs at hvalue
  · exact Option.some.inj hvalue ▸ .flag b
  · cases hvalue

lemma RuleEntry.scalar_written {entry : RuleEntry} (hsized : entry.Sized) (kept : Bool) :
    ∀ given ∈ (entry.written kept).given, Scalar given.2 := by
  have hfields : ∀ field ∈ entry.written kept, ∀ value ∈ field.2, Scalar value := by
    simp only [written, List.forall_mem_cons]
    exact ⟨scalar_strings _, scalar_strings (some _), scalar_strings _, scalar_strings _,
      scalar_sizes hsized.1, scalar_sizes hsized.2, scalar_strings _, scalar_flag _ _, by simp⟩
  exact fun given hgiven => hfields _ (mem_given_iff.mp hgiven) _ rfl

namespace Config

/-- The rules of a configuration as tables that leave out what they may. -/
def tables (config : Config) : List Entries :=
  config.rules.map fun entry => (entry.written false).given

/-- A configuration with each rule under a header. -/
def underHeaders (config : Config) : Document where
  top := (config.written false false none).given
  sections := config.tables.map fun entries => ⟨true, "rules", entries⟩

/-- A configuration with its rules in one array. -/
def inBraces (config : Config) : Document where
  top := (config.written false false (some (.array (config.tables.map (.table .inline))))).given
  sections := []

variable {config : Config}

lemma written_tables (config : Config) :
    List.Forall₂ RuleEntry.Written config.rules config.tables := by
  unfold tables
  rw [List.forall₂_map_right_iff, List.forall₂_same]
  exact fun entry _ => ⟨false, gives_given (entry.nodup_written false)⟩

lemma scalar_tables (hsized : ∀ entry ∈ config.rules, entry.Sized) :
    ∀ entries ∈ config.tables, ∀ given ∈ entries, Scalar given.2 := by
  intro entries hentries
  obtain ⟨entry, hentry, rfl⟩ := List.mem_map.mp hentries
  exact RuleEntry.scalar_written (hsized entry hentry) false

lemma nodup_tables : ∀ entries ∈ config.tables, (entries.map Prod.fst).Nodup := by
  intro entries hentries
  obtain ⟨entry, -, rfl⟩ := List.mem_map.mp hentries
  exact (gives_given (entry.nodup_written false)).nodup

/-- The values of a document that are no rules can be written. -/
lemma exists_spells_written {rules : Option Value}
    (hrules : ∀ value ∈ rules, ∃ text, Spells 0 (.value value) text) :
    ∀ given ∈ (config.written false false rules).given, ∃ text, Spells 0 (.value given.2) text := by
  have hplain : ∀ found : Option Value, (∀ value ∈ found, Scalar value) →
      ∀ value ∈ found, ∃ text, Spells 0 (.value value) text :=
    fun found h value hvalue => (h value hvalue).exists_spells 0
  have hfields : ∀ field ∈ config.written false false rules, ∀ value ∈ field.2,
      ∃ text, Spells 0 (.value value) text := by
    simp only [written, List.forall_mem_cons]
    exact ⟨hplain _ (scalar_flag _ _), hplain _ (scalar_flag _ _), hplain _ (scalar_strings _),
      hrules, by simp⟩
  exact fun given hgiven => hfields _ (mem_given_iff.mp hgiven) _ rfl

lemma elements_underHeaders (config : Config) :
    Document.elements config.underHeaders.sections "rules" = config.tables := by
  have hfilter : ∀ tables : List Entries,
      Document.elements (tables.map fun entries => ⟨true, "rules", entries⟩) "rules" = tables := by
    intro tables
    induction tables with
    | nil => rfl
    | cons entries tables ih => rw [List.map_cons, Document.elements_cons_self, ih]
  exact hfilter config.tables

lemma spelledBy_headers (hsized : ∀ entry ∈ config.rules, entry.Sized) :
    ∃ text, config.SpelledBy .headers text := by
  have hgives : Gives config.underHeaders.top (config.written false false none) :=
    gives_given nodup_keys
  have hpart : ∀ part ∈ config.underHeaders.sections,
      part.name = "rules" ∧ part.double = true ∧ part.entries ∈ config.tables := by
    intro part hpart
    obtain ⟨entries, hentries, rfl⟩ := List.mem_map.mp hpart
    exact ⟨rfl, rfl, hentries⟩
  have hdoc : config.underHeaders.WellFormed := {
    top := hgives.nodup
    entries := fun part hmem => nodup_tables _ (hpart part hmem).2.2
    apart := fun part hmem => by
      rw [(hpart part hmem).1, ← Entries.get?_eq_none_iff]
      exact get?_of_gives hgives (by simp [written])
    shared := List.pairwise_map.mpr (List.pairwise_of_forall fun _ _ _ => ⟨rfl, rfl⟩) }
  have hwritten : config.Written config.underHeaders .headers := by
    refine .headers hgives ?_ fun part hmem _ => ⟨(hpart part hmem).1, (hpart part hmem).2.1⟩
    rw [elements_underHeaders]
    exact config.written_tables
  have hsections : ∀ part ∈ config.underHeaders.sections, ∀ given ∈ part.entries,
      ∃ text, Spells 0 (.value given.2) text := fun part hmem given hgiven =>
    (scalar_tables hsized _ (hpart part hmem).2.2 given hgiven).exists_spells 0
  obtain ⟨text, htext⟩ := Document.exists_spells (exists_spells_written (by simp)) hsections
  exact ⟨String.ofList text, _, hdoc, hwritten, by rwa [String.toList_ofList]⟩

lemma spelledBy_inline (hsized : ∀ entry ∈ config.rules, entry.Sized) :
    ∃ text, config.SpelledBy .inline text := by
  have hgives : Gives config.inBraces.top (config.written false false
      (some (.array (config.tables.map (.table .inline))))) := gives_given nodup_keys
  have hdoc : config.inBraces.WellFormed := ⟨hgives.nodup, by simp [inBraces], by simp [inBraces],
    .nil⟩
  have hwritten : config.Written config.inBraces .inline :=
    .inline hgives config.written_tables (by simp [inBraces])
  have hitems : ∀ item ∈ config.tables.map (.table .inline),
      ∃ text, Spells 1 (.value item) text := by
    intro item hitem
    obtain ⟨entries, hentries, rfl⟩ := List.mem_map.mp hitem
    obtain ⟨text, htext⟩ := Toml.exists_spells_entries fun given hgiven =>
      (scalar_tables hsized entries hentries given hgiven).exists_spells 2
    exact ⟨_, .table (by decide) (nodup_tables entries hentries) htext⟩
  obtain ⟨array, harray⟩ := Toml.exists_spells_items hitems
  have htop : ∀ given ∈ config.inBraces.top, ∃ text, Spells 0 (.value given.2) text :=
    exists_spells_written fun value hvalue =>
      Option.some.inj hvalue ▸ ⟨_, .array (by decide) harray⟩
  obtain ⟨text, htext⟩ := Document.exists_spells htop (by simp [inBraces])
  exact ⟨String.ofList text, _, hdoc, hwritten, by rwa [String.toList_ofList]⟩

/-- **Every valid configuration can be written, and is read back exactly.** A configuration whose
rules can all be made, with any text in its strings and any numbers of 64 bits, is written with its
rules under headers or in one array. Its keys may stand in any order and among others that are not
known, options that are not given are left out, and a flag that is not set may be left out. Whatever
the spelling, the text is read as that configuration, so the two spellings always agree. -/
theorem read_of_spelledBy (config : Config)
    (valid : ∀ entry ∈ config.rules, ∃ rule, entry.toRule = .ok rule)
    (sized : ∀ entry ∈ config.rules, entry.Sized) (path : String) :
    (∀ spelling, ∃ text, config.SpelledBy spelling text) ∧
      ∀ spelling text, config.SpelledBy spelling text → read path text = .ok config := by
  refine ⟨fun spelling => ?_, fun spelling text h => ?_⟩
  · cases spelling with
    | headers => exact spelledBy_headers sized
    | inline => exact spelledBy_inline sized
  · rw [read_of_describes (h.describes sized), check_eq_ok_iff_toRule.mpr valid]
    rfl

/-- A rule for paths with long runs. -/
def runs : Config := { rules := [{ pattern := "run", minHexRun := some 12 }] }

/-- Its table, with a key that is not known. -/
def runsTable : Entries :=
  [("min_hex_run", ofSize 12), ("x y", .boolean true), ("pattern", .string "run")]

lemma spelledBy_runs : runs.SpelledBy .headers
    "[[rules]]\nmin_hex_run = 12\n'x y' = true\npattern = \"\\x72un\"\n" := by
  have hnone : Blanks [] := by simp [Blanks]
  have hblank : Blanks [' '] := by simp [Blanks, isBlank]
  have hheader : Statement.Spelled (.openElement ⟨[], "rules"⟩) "[[rules]]".toList :=
    .openElement (.bare (by decide) (List.all_eq_true.mp rfl)) hnone hnone
  have hsize : Spells 0 (.entry "min_hex_run" (ofSize 12)) "min_hex_run = 12".toList :=
    .entry (.bare (by decide) (List.all_eq_true.mp rfl)) hblank hblank (.number (by decide))
  have hother : Spells 0 (.entry "x y" (.boolean true)) "'x y' = true".toList :=
    .entry (.quoted (.single (by simp [isPlain]))) hblank hblank (.flag true)
  have hcode : Escaped 'r' "\\x72".toList :=
    .code (show ('x', 2) ∈ codeEscapes by decide) rfl (List.all_eq_true.mp rfl) rfl
  have hrun : EscapedLine "run".toList "\\x72un\"".toList :=
    .cons hcode (.cons (.plain (by decide) (by decide) (by decide))
      (.cons (.plain (by decide) (by decide) (by decide)) .nil))
  have hpattern : Spells 0 (.entry "pattern" (.string "run")) "pattern = \"\\x72un\"".toList :=
    .entry (.bare (by decide) (List.all_eq_true.mp rfl)) hblank hblank (.string (.double hrun))
  have hperm : ∀ a b c : String × Value, ([a, b] ++ [c]).Perm ([c] ++ [a, b]) :=
    fun a b c => List.perm_append_comm
  have hgives : Gives runsTable
      (RuleEntry.written false { pattern := "run", minHexRun := some 12 }) :=
    ⟨⟨[("x y", .boolean true)], hperm _ _ _, by decide⟩, by decide⟩
  have htop : Gives (Fields.given _) (runs.written false false none) := gives_given nodup_keys
  exact ⟨⟨[], [⟨true, "rules", runsTable⟩]⟩, ⟨.nil, by simpa using hgives.nodup, by simp, by simp⟩,
    .headers htop (.cons ⟨false, hgives⟩ .nil) (by simp),
    .cons .nil hheader .newline (.cons .nil (.assign hsize) .newline (.cons .nil (.assign hother)
      .newline (.cons .nil (.assign hpattern) .newline (.nil .nil))))⟩

theorem read_of_spelledBy_runs :
    (∀ entry ∈ runs.rules, ∃ rule, entry.toRule = .ok rule) ∧
    (∀ entry ∈ runs.rules, entry.Sized) ∧
    (∀ spelling, ∃ text, runs.SpelledBy spelling text ∧ read "a.toml" text = .ok runs) ∧
    read "a.toml" "[[rules]]\nmin_hex_run = 12\n'x y' = true\npattern = \"\\x72un\"\n" =
      .ok runs := by
  have hvalid : ∀ entry ∈ runs.rules, ∃ rule, entry.toRule = .ok rule :=
    check_eq_ok_iff_toRule.mp (by decide +kernel)
  have hsized : ∀ entry ∈ runs.rules, entry.Sized := by simp [runs, RuleEntry.Sized]
  have hspelled := read_of_spelledBy runs hvalid hsized "a.toml"
  refine ⟨hvalid, hsized, fun spelling => ?_, hspelled.2 .headers _ spelledBy_runs⟩
  obtain ⟨text, htext⟩ := hspelled.1 spelling
  exact ⟨text, htext, hspelled.2 spelling text htext⟩

end Config

end StablePath
