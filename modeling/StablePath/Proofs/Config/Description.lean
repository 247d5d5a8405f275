import StablePath.Config.Reader
import Mathlib.Algebra.GroupWithZero.Nat
import Mathlib.Data.List.Forall2

/-!
What documents describe.

A document describes a configuration if the values at its keys are those of the configuration. A
text is malformed if it is no document, or if a value in it is of another kind than its key asks
for, or if a rule in it has no pattern. What is not malformed describes one configuration, and the
reader finds it.
-/

namespace StablePath

open Toml (Value Entries)

section

variable {α β : Type} {p : α → β → Prop} {xs : List α}

lemma mapM_eq_some_iff {f : α → Option β} {ys : List β} :
    xs.mapM f = some ys ↔ List.Forall₂ (fun x y => f x = some y) xs ys := by
  induction xs generalizing ys with
  | nil => simp [eq_comm]
  | cons x xs ih =>
    simp only [List.mapM_cons, Option.bind_eq_bind, Option.bind_eq_some_iff, Option.pure_def,
      Option.some_inj, ih, List.forall₂_cons_left_iff]
    constructor
    · rintro ⟨y, hy, ys', hys, rfl⟩
      exact ⟨y, ys', hy, hys, rfl⟩
    · rintro ⟨y, ys', hy, hys, rfl⟩
      exact ⟨y, hy, ys', hys, rfl⟩

lemma exists_forall₂_iff : (∃ ys, List.Forall₂ p xs ys) ↔ ∀ x ∈ xs, ∃ y, p x y := by
  induction xs with
  | nil => exact iff_of_true ⟨[], .nil⟩ (by simp)
  | cons x xs ih =>
    rw [List.forall_mem_cons, ← ih]
    constructor
    · rintro ⟨ys, h⟩
      cases h with
      | cons hx hxs => exact ⟨⟨_, hx⟩, _, hxs⟩
    · rintro ⟨⟨y, hx⟩, ys, hxs⟩
      exact ⟨y :: ys, .cons hx hxs⟩

end

/-! ### What a document describes -/

/-- A value is a list of values, written in brackets or opened by headers. -/
inductive Lists : Value → List Value → Prop
  | array (items : List Value) : Lists (.array items) items
  | tables (elements : List Entries) : Lists (.tables elements) (elements.map (.table .header))

/-- A whole number without a sign. -/
def ofSize (n : Nat) : Value := .integer n

/-- Whether a flag is set, which it is not if it is left out. -/
def Flagged (entries : Entries) (key : String) (b : Bool) : Prop :=
  entries.get? key = some (.boolean b) ∨ entries.get? key = none ∧ b = false

namespace RuleEntry

/-- An entry has the values of a table. -/
structure OfTable (entries : Entries) (entry : RuleEntry) : Prop where
  name : entries.get? "name" = entry.name.map .string
  pattern : entries.get? "pattern" = some (.string entry.pattern)
  hint : entries.get? "hint" = entry.hint.map .string
  filesystem : entries.get? "filesystem" = entry.filesystem.map .string
  minHexRun : entries.get? "min_hex_run" = entry.minHexRun.map ofSize ∧
    ∀ n ∈ entry.minHexRun, n < 2 ^ 64
  group : entries.get? "group" = entry.group.map ofSize ∧ ∀ n ∈ entry.group, n < 2 ^ 64
  replacement : entries.get? "replacement" = entry.replacement.map .string
  pidAware : Flagged entries "pid_aware" entry.pidAware

/-- An entry has the values of an array, of which only the last may be left out. -/
inductive OfArray : List Value → RuleEntry → Prop
  | short {name pattern hint filesystem replacement : String} {minHexRun group : Nat}
      (run : minHexRun < 2 ^ 64) (target : group < 2 ^ 64) :
      OfArray [.string name, .string pattern, .string hint, .string filesystem, ofSize minHexRun,
          ofSize group, .string replacement]
        ⟨name, pattern, hint, filesystem, minHexRun, group, replacement, false⟩
  | full {name pattern hint filesystem replacement : String} {minHexRun group : Nat}
      {pidAware : Bool} (run : minHexRun < 2 ^ 64) (target : group < 2 ^ 64) (more : List Value) :
      OfArray (.string name :: .string pattern :: .string hint :: .string filesystem ::
          ofSize minHexRun :: ofSize group :: .string replacement :: .boolean pidAware :: more)
        ⟨name, pattern, hint, filesystem, minHexRun, group, replacement, pidAware⟩

/-- A value says what an entry is. -/
inductive Describes : Value → RuleEntry → Prop
  | table {origin entries entry} (h : OfTable entries entry) :
      Describes (.table origin entries) entry
  | array {value items entry} (list : Lists value items) (h : OfArray items entry) :
      Describes value entry

end RuleEntry

namespace Config

/-- A configuration has the values of a document. -/
structure OfDocument (entries : Entries) (config : Config) : Prop where
  root : Flagged entries "root" config.root
  disableBuiltin : Flagged entries "disable-builtin-rules" config.disableBuiltin
  homeSwitch : entries.get? "root-config-lookup-disable-env-var" = config.homeSwitch.map .string
  rules : entries.get? "rules" = none ∧ config.rules = [] ∨
    ∃ value items, entries.get? "rules" = some value ∧ Lists value items ∧
      List.Forall₂ RuleEntry.Describes items config.rules

/-- A text says what a configuration is. -/
def Describes (text : String) (config : Config) : Prop :=
  ∃ entries, Toml.read? text.toList = some entries ∧ OfDocument entries config

end Config

/-! ### Readers of values -/

namespace Toml.Value

variable {value : Value}

lemma string?_eq_some {s : String} : value.string? = some s ↔ value = .string s := by
  cases value <;> simp [string?]

lemma boolean?_eq_some {b : Bool} : value.boolean? = some b ↔ value = .boolean b := by
  cases value <;> simp [boolean?]

lemma size?_eq_some {n : Nat} : value.size? = some n ↔ value = ofSize n ∧ n < 2 ^ 64 := by
  cases value with
  | integer m =>
    simp only [size?, ofSize, integer.injEq, Option.ite_none_right_eq_some, Option.some_inj]
    have hsize : (UInt64.size : Int) = 2 ^ 64 := rfl
    omega
  | _ => simp [size?, ofSize]

lemma items?_eq_some {items : List Value} : value.items? = some items ↔ Lists value items := by
  cases value with
  | array xs =>
    refine ⟨fun h => Option.some.inj h ▸ .array xs, fun h => ?_⟩
    cases h
    rfl
  | tables elements =>
    refine ⟨fun h => Option.some.inj h ▸ .tables elements, fun h => ?_⟩
    cases h
    rfl
  | _ => exact iff_of_false (fun h => by cases h) (fun h => by cases h)

end Toml.Value

lemma Lists.unique {value : Value} {items items' : List Value} (h : Lists value items)
    (h' : Lists value items') : items = items' := by
  have hitems := Value.items?_eq_some.mpr h
  rw [Value.items?_eq_some.mpr h'] at hitems
  exact (Option.some.inj hitems).symm

section

variable {α : Type} {read : Value → Option α} {entries : Entries} {key : String}

lemma optional?_eq_some {found : Option α} : entries.optional? read key = some found ↔
    entries.get? key = none ∧ found = none ∨
      ∃ value a, entries.get? key = some value ∧ read value = some a ∧ found = some a := by
  unfold Toml.Entries.optional?
  cases entries.get? key with
  | none => simp [eq_comm]
  | some value => simp [eq_comm]

/-- A key whose reader accepts exactly the values of a form. -/
lemma optional?_eq_some_of (make : α → Value) (ok : α → Prop)
    (h : ∀ value a, read value = some a ↔ value = make a ∧ ok a) {found : Option α} :
    entries.optional? read key = some found ↔
      entries.get? key = found.map make ∧ ∀ a ∈ found, ok a := by
  rw [optional?_eq_some]
  cases found with
  | none => simp
  | some b => simp [h, and_comm]

lemma optional?_string {found : Option String} :
    entries.optional? Value.string? key = some found ↔ entries.get? key = found.map .string := by
  have hread : ∀ value s, Value.string? value = some s ↔ value = .string s ∧ True := by
    intro value s
    rw [Value.string?_eq_some, and_true]
  rw [optional?_eq_some_of .string (fun _ => True) hread]
  simp

lemma optional?_size {found : Option Nat} : entries.optional? Value.size? key = some found ↔
    entries.get? key = found.map ofSize ∧ ∀ n ∈ found, n < 2 ^ 64 :=
  optional?_eq_some_of ofSize (· < 2 ^ 64) fun _ _ => Value.size?_eq_some

/-- A flag that is left out is not set. -/
lemma optional?_flag {b : Bool} :
    (∃ found, entries.optional? Value.boolean? key = some found ∧ found.getD false = b) ↔
      Flagged entries key b := by
  simp only [optional?_eq_some, Value.boolean?_eq_some, Flagged]
  constructor
  · rintro ⟨found, ⟨hnone, rfl⟩ | ⟨value, a, hvalue, rfl, rfl⟩, rfl⟩
    · exact Or.inr ⟨hnone, rfl⟩
    · exact Or.inl hvalue
  · rintro (hvalue | ⟨hnone, rfl⟩)
    · exact ⟨some b, Or.inr ⟨_, b, hvalue, rfl, rfl⟩, rfl⟩
    · exact ⟨none, Or.inl ⟨hnone, rfl⟩, rfl⟩

end

namespace RuleEntry

lemma ofTable?_eq_some {entries : Entries} {entry : RuleEntry} :
    ofTable? entries = some entry ↔ OfTable entries entry := by
  simp only [ofTable?, Option.bind_eq_bind, Option.bind_eq_some_iff, Option.pure_def,
    Option.some_inj, optional?_string, optional?_size]
  constructor
  · rintro ⟨found, hpattern, name, hname, pattern, rfl, hint, hhint, filesystem, hfilesystem, run,
      hrun, group, hgroup, replacement, hreplacement, flag, hflag, rfl⟩
    exact ⟨hname, hpattern, hhint, hfilesystem, hrun, hgroup, hreplacement,
      optional?_flag.mp ⟨flag, hflag, rfl⟩⟩
  · rintro ⟨hname, hpattern, hhint, hfilesystem, hrun, hgroup, hreplacement, hflag⟩
    obtain ⟨flag, hflag, hset⟩ := optional?_flag.mpr hflag
    refine ⟨some entry.pattern, hpattern, _, hname, _, rfl, _, hhint, _, hfilesystem, _, hrun, _,
      hgroup, _, hreplacement, flag, hflag, ?_⟩
    rw [hset]

lemma ofArray?_eq_some {items : List Value} {entry : RuleEntry} :
    ofArray? items = some entry ↔ OfArray items entry := by
  constructor
  · intro h
    unfold ofArray? at h
    split at h
    next others =>
      cases others with
      | nil =>
        simp only [Option.bind_eq_bind, Option.bind_eq_some_iff, Option.pure_def,
          Value.string?_eq_some, Value.size?_eq_some] at h
        obtain ⟨name, rfl, pattern, rfl, hint, rfl, filesystem, rfl, run, ⟨rfl, hrun⟩, group,
          ⟨rfl, hgroup⟩, replacement, rfl, flag, hflag, hentry⟩ := h
        obtain rfl := Option.some.inj hflag
        exact Option.some.inj hentry ▸ .short hrun hgroup
      | cons value more =>
        simp only [Option.bind_eq_bind, Option.bind_eq_some_iff, Option.pure_def,
          Value.string?_eq_some, Value.size?_eq_some, Value.boolean?_eq_some] at h
        obtain ⟨name, rfl, pattern, rfl, hint, rfl, filesystem, rfl, run, ⟨rfl, hrun⟩, group,
          ⟨rfl, hgroup⟩, replacement, rfl, flag, rfl, hentry⟩ := h
        exact Option.some.inj hentry ▸ .full hrun hgroup more
    · cases h
  · intro h
    cases h with
    | short run target =>
      simp [ofArray?, Value.string?, Value.size?_eq_some.mpr ⟨rfl, run⟩,
        Value.size?_eq_some.mpr ⟨rfl, target⟩]
    | full run target more =>
      simp [ofArray?, Value.string?, Value.boolean?, Value.size?_eq_some.mpr ⟨rfl, run⟩,
        Value.size?_eq_some.mpr ⟨rfl, target⟩]

lemma ofValue?_eq_some {value : Value} {entry : RuleEntry} :
    ofValue? value = some entry ↔ Describes value entry := by
  have hlist : value.items? >>= ofArray? = some entry ↔
      ∃ items, Lists value items ∧ OfArray items entry := by
    simp only [Option.bind_eq_bind, Option.bind_eq_some_iff, Value.items?_eq_some, ofArray?_eq_some]
  unfold ofValue?
  split
  next origin entries =>
    rw [ofTable?_eq_some]
    refine ⟨.table, fun h => ?_⟩
    cases h with
    | table h => exact h
    | array list h => cases list
  next value htable =>
    rw [hlist]
    constructor
    · rintro ⟨items, list, h⟩
      exact .array list h
    · intro h
      cases h with
      | table h => exact absurd rfl (htable _ _)
      | array list h => exact ⟨_, list, h⟩

end RuleEntry

namespace Config

lemma ofTable?_eq_some {entries : Entries} {config : Config} :
    ofTable? entries = some config ↔ OfDocument entries config := by
  simp only [ofTable?, Option.bind_eq_bind, Option.bind_eq_some_iff, Option.pure_def,
    Option.some_inj, optional?_string, mapM_eq_some_iff, RuleEntry.ofValue?_eq_some]
  constructor
  · rintro ⟨found, hfound, root, hroot, builtin, hbuiltin, switch, hswitch, rules, hrules, rfl⟩
    refine ⟨optional?_flag.mp ⟨root, hroot, rfl⟩, optional?_flag.mp ⟨builtin, hbuiltin, rfl⟩,
      hswitch, ?_⟩
    rcases optional?_eq_some.mp hfound with ⟨hnone, rfl⟩ | ⟨value, items, hvalue, hitems, rfl⟩
    · exact Or.inl ⟨hnone, List.forall₂_nil_left_iff.mp hrules⟩
    · exact Or.inr ⟨value, items, hvalue, Value.items?_eq_some.mp hitems, hrules⟩
  · rintro ⟨hroot, hbuiltin, hswitch, hrules⟩
    obtain ⟨root, hroot, hroot'⟩ := optional?_flag.mpr hroot
    obtain ⟨builtin, hbuiltin, hbuiltin'⟩ := optional?_flag.mpr hbuiltin
    obtain ⟨found, hfound, hitems⟩ : ∃ found, entries.optional? Value.items? "rules" = some found ∧
        List.Forall₂ RuleEntry.Describes (found.getD []) config.rules := by
      rcases hrules with ⟨hnone, hempty⟩ | ⟨value, items, hvalue, hlist, hitems⟩
      · exact ⟨none, optional?_eq_some.mpr (Or.inl ⟨hnone, rfl⟩), by rw [hempty]; exact .nil⟩
      · refine ⟨some items, optional?_eq_some.mpr (Or.inr ⟨value, items, hvalue, ?_, rfl⟩), hitems⟩
        exact Value.items?_eq_some.mpr hlist
    refine ⟨found, hfound, root, hroot, builtin, hbuiltin, _, hswitch, _, hitems, ?_⟩
    rw [hroot', hbuiltin']

lemma ofText?_eq_some {text : String} {config : Config} :
    ofText? text = some config ↔ Describes text config := by
  simp only [ofText?, Option.bind_eq_bind, Option.bind_eq_some_iff, ofTable?_eq_some, Describes]

/-- A text describes no two configurations. -/
lemma Describes.unique {text : String} {config config' : Config} (h : Describes text config)
    (h' : Describes text config') : config = config' := by
  have hsame := ofText?_eq_some.mpr h
  rw [ofText?_eq_some.mpr h'] at hsame
  exact (Option.some.inj hsame).symm

end Config

/-! ### What no document describes -/

/-- What a key asks for. -/
inductive Kind
  | text
  | flag
  /-- A whole number of 64 bits without a sign. -/
  | size

def Kind.Holds : Kind → Value → Prop
  | text, value => ∃ s, value = .string s
  | flag, value => ∃ b, value = .boolean b
  | size, value => ∃ n, value = ofSize n ∧ n < 2 ^ 64

/-- A key that is known has a value of another kind than it asks for. -/
def Mistyped (fields : List (String × Kind)) (entries : Entries) : Prop :=
  ∃ field ∈ fields, ∃ value, entries.get? field.1 = some value ∧ ¬ field.2.Holds value

namespace RuleEntry

/-- The keys of a rule, in the order in which an array gives their values. -/
def fields : List (String × Kind) :=
  [("name", .text), ("pattern", .text), ("hint", .text), ("filesystem", .text),
    ("min_hex_run", .size), ("group", .size), ("replacement", .text), ("pid_aware", .flag)]

/-- An item of an array has another kind than the key in its place asks for. -/
def ItemMistyped (items : List Value) : Prop :=
  ∃ pair ∈ fields.zip items, ¬ pair.1.2.Holds pair.2

/-- A value is no rule: a table without a pattern or with a value of another kind, an array that
leaves out more than the last value or has one of another kind, or neither of these. -/
inductive Misshapen : Value → Prop
  | mistyped {origin entries} (h : Mistyped fields entries) : Misshapen (.table origin entries)
  | patternless {origin entries} (h : Entries.get? "pattern" entries = none) :
      Misshapen (.table origin entries)
  | item {value items} (list : Lists value items) (h : ItemMistyped items) : Misshapen value
  | short {value items} (list : Lists value items) (h : items.length < 7) : Misshapen value
  | neither {value} (table : ∀ origin entries, value ≠ .table origin entries)
      (list : ∀ items, ¬ Lists value items) : Misshapen value

end RuleEntry

namespace Config

/-- The keys of a document whose values are no rules. -/
def fields : List (String × Kind) :=
  [("root", .flag), ("disable-builtin-rules", .flag), ("root-config-lookup-disable-env-var", .text)]

/-- A text is no document, or a known key in it has a value of another kind, or a rule in it lacks
its pattern. -/
inductive Malformed (text : String) : Prop
  | unreadable (h : Toml.read? text.toList = none)
  | mistyped {entries} (read : Toml.read? text.toList = some entries) (h : Mistyped fields entries)
  | unlisted {entries value} (read : Toml.read? text.toList = some entries)
      (rules : entries.get? "rules" = some value) (h : ∀ items, ¬ Lists value items)
  | rule {entries value items item} (read : Toml.read? text.toList = some entries)
      (rules : entries.get? "rules" = some value) (list : Lists value items) (mem : item ∈ items)
      (h : RuleEntry.Misshapen item)

end Config

section

variable {entries : Entries} {key : String}

/-- What stands at a key, if anything, is of a form. -/
lemma exists_map_iff {α : Type} (make : α → Value) (ok : α → Prop) :
    (∃ found : Option α, entries.get? key = found.map make ∧ ∀ a ∈ found, ok a) ↔
      ∀ value, entries.get? key = some value → ∃ a, value = make a ∧ ok a := by
  cases entries.get? key with
  | none => exact iff_of_true ⟨none, rfl, by simp⟩ (by simp)
  | some value =>
    simp only [Option.some_inj, forall_eq']
    constructor
    · rintro ⟨_ | a, heq, ha⟩
      · cases heq
      · exact ⟨a, Option.some.inj heq, ha a rfl⟩
    · rintro ⟨a, rfl, ha⟩
      exact ⟨some a, rfl, by simpa using ha⟩

lemma exists_size_iff : (∃ found : Option Nat, entries.get? key = found.map ofSize ∧
      ∀ n ∈ found, n < 2 ^ 64) ↔
    ∀ value, entries.get? key = some value → Kind.size.Holds value :=
  exists_map_iff ofSize (· < 2 ^ 64)

lemma exists_string_iff : (∃ found : Option String, entries.get? key = found.map .string) ↔
    ∀ value, entries.get? key = some value → Kind.text.Holds value := by
  simpa [Kind.Holds] using exists_map_iff .string fun _ => True

lemma exists_flagged_iff : (∃ b, Flagged entries key b) ↔
    ∀ value, entries.get? key = some value → Kind.flag.Holds value := by
  unfold Flagged
  cases entries.get? key with
  | none => exact iff_of_true ⟨false, Or.inr ⟨rfl, rfl⟩⟩ (by simp)
  | some value => simp [Kind.Holds]

lemma not_mistyped_iff {fields : List (String × Kind)} : ¬ Mistyped fields entries ↔
    ∀ field ∈ fields, ∀ value, entries.get? field.1 = some value → field.2.Holds value := by
  simp [Mistyped]

end

namespace RuleEntry

lemma exists_ofTable_iff {entries : Entries} : (∃ entry, OfTable entries entry) ↔
    ¬ Mistyped fields entries ∧ entries.get? "pattern" ≠ none := by
  simp only [not_mistyped_iff, fields, List.forall_mem_cons, ← exists_string_iff, ← exists_size_iff,
    ← exists_flagged_iff]
  constructor
  · rintro ⟨entry, hname, hpattern, hhint, hfilesystem, hrun, hgroup, hreplacement, hflag⟩
    refine ⟨⟨⟨_, hname⟩, ⟨some _, hpattern⟩, ⟨_, hhint⟩, ⟨_, hfilesystem⟩, ⟨_, hrun⟩, ⟨_, hgroup⟩,
      ⟨_, hreplacement⟩, ⟨_, hflag⟩, by simp⟩, ?_⟩
    rw [hpattern]
    exact Option.some_ne_none _
  · rintro ⟨⟨⟨name, hname⟩, ⟨pattern, hpattern⟩, ⟨hint, hhint⟩, ⟨filesystem, hfilesystem⟩,
      ⟨run, hrun⟩, ⟨group, hgroup⟩, ⟨replacement, hreplacement⟩, ⟨flag, hflag⟩, -⟩, hgiven⟩
    cases pattern with
    | none => exact absurd hpattern hgiven
    | some pattern =>
      exact ⟨⟨name, pattern, hint, filesystem, run, group, replacement, flag⟩, hname, hpattern,
        hhint, hfilesystem, hrun, hgroup, hreplacement, hflag⟩

lemma exists_ofArray_iff {items : List Value} : (∃ entry, OfArray items entry) ↔
    ¬ ItemMistyped items ∧ 7 ≤ items.length := by
  have hitems : ¬ ItemMistyped items ↔ ∀ pair ∈ fields.zip items, pair.1.2.Holds pair.2 := by
    simp [ItemMistyped]
  rw [hitems]
  constructor
  · rintro ⟨entry, h⟩
    cases h with
    | short run target =>
      refine ⟨?_, Nat.le_refl 7⟩
      simp only [fields, List.zip_cons_cons, List.zip_nil_right, List.forall_mem_cons, Kind.Holds]
      exact ⟨⟨_, rfl⟩, ⟨_, rfl⟩, ⟨_, rfl⟩, ⟨_, rfl⟩, ⟨_, rfl, run⟩, ⟨_, rfl, target⟩, ⟨_, rfl⟩,
        by simp⟩
    | full run target more =>
      refine ⟨?_, by simp only [List.length_cons]; omega⟩
      simp only [fields, List.zip_cons_cons, List.zip_nil_left, List.forall_mem_cons, Kind.Holds]
      exact ⟨⟨_, rfl⟩, ⟨_, rfl⟩, ⟨_, rfl⟩, ⟨_, rfl⟩, ⟨_, rfl, run⟩, ⟨_, rfl, target⟩, ⟨_, rfl⟩,
        ⟨_, rfl⟩, by simp⟩
  · rintro ⟨hkinds, hlength⟩
    match items, hlength with
    | _ :: _ :: _ :: _ :: _ :: _ :: _ :: others, _ =>
      simp only [fields, List.zip_cons_cons, List.forall_mem_cons, Kind.Holds] at hkinds
      obtain ⟨⟨name, rfl⟩, ⟨pattern, rfl⟩, ⟨hint, rfl⟩, ⟨filesystem, rfl⟩, ⟨run, rfl, hrun⟩,
        ⟨group, rfl, hgroup⟩, ⟨replacement, rfl⟩, hflag⟩ := hkinds
      cases others with
      | nil => exact ⟨_, .short hrun hgroup⟩
      | cons value more =>
        obtain ⟨flag, rfl⟩ := hflag _ List.mem_cons_self
        exact ⟨_, .full hrun hgroup more⟩

lemma exists_describes_iff {value : Value} :
    (∃ entry, Describes value entry) ↔ ¬ Misshapen value := by
  constructor
  · rintro ⟨entry, h⟩ hmisshapen
    cases h with
    | table h =>
      obtain ⟨hkinds, hpattern⟩ := exists_ofTable_iff.mp ⟨entry, h⟩
      cases hmisshapen with
      | mistyped hno => exact hkinds hno
      | patternless hno => exact hpattern hno
      | item list | short list => cases list
      | neither table => exact table _ _ rfl
    | array list h =>
      obtain ⟨hkinds, hlength⟩ := exists_ofArray_iff.mp ⟨entry, h⟩
      cases hmisshapen with
      | mistyped | patternless => cases list
      | item list' hno => exact hkinds (list.unique list' ▸ hno)
      | short list' hno =>
        rw [← list.unique list'] at hno
        omega
      | neither _ hlist => exact hlist _ list
  · intro h
    -- what is well shaped is a table or a list
    by_cases htable : ∃ origin entries, value = .table origin entries
    · obtain ⟨origin, entries, rfl⟩ := htable
      obtain ⟨entry, hentry⟩ := exists_ofTable_iff.mpr
        ⟨fun hno => h (.mistyped hno), fun hno => h (.patternless hno)⟩
      exact ⟨entry, .table hentry⟩
    · by_cases hlist : ∃ items, Lists value items
      · obtain ⟨items, list⟩ := hlist
        obtain ⟨entry, hentry⟩ := exists_ofArray_iff.mpr
          ⟨fun hno => h (.item list hno), Nat.le_of_not_lt fun hno => h (.short list hno)⟩
        exact ⟨entry, .array list hentry⟩
      · refine absurd (.neither ?_ ?_) h
        · exact fun origin entries heq => htable ⟨origin, entries, heq⟩
        · exact fun items list => hlist ⟨items, list⟩

end RuleEntry

namespace Config

lemma exists_ofDocument_iff {entries : Entries} : (∃ config, OfDocument entries config) ↔
    ¬ Mistyped fields entries ∧ ∀ value, entries.get? "rules" = some value →
      ∃ items, Lists value items ∧ ∀ item ∈ items, ¬ RuleEntry.Misshapen item := by
  simp only [not_mistyped_iff, fields, List.forall_mem_cons, ← exists_string_iff,
    ← exists_flagged_iff, ← RuleEntry.exists_describes_iff]
  constructor
  · rintro ⟨config, hroot, hbuiltin, hswitch, hrules⟩
    refine ⟨⟨⟨_, hroot⟩, ⟨_, hbuiltin⟩, ⟨_, hswitch⟩, by simp⟩, fun value hvalue => ?_⟩
    rcases hrules with ⟨hnone, -⟩ | ⟨value', items, hvalue', list, hitems⟩
    · rw [hnone] at hvalue
      cases hvalue
    · obtain rfl : value' = value := Option.some.inj (hvalue'.symm.trans hvalue)
      exact ⟨items, list, exists_forall₂_iff.mp ⟨_, hitems⟩⟩
  · rintro ⟨⟨⟨root, hroot⟩, ⟨builtin, hbuiltin⟩, ⟨switch, hswitch⟩, -⟩, hrules⟩
    cases hvalue : entries.get? "rules" with
    | none => exact ⟨⟨root, builtin, switch, []⟩, hroot, hbuiltin, hswitch, Or.inl ⟨hvalue, rfl⟩⟩
    | some value =>
      obtain ⟨items, list, hitems⟩ := hrules value hvalue
      obtain ⟨rules, hrules⟩ := exists_forall₂_iff.mpr hitems
      exact ⟨⟨root, builtin, switch, rules⟩, hroot, hbuiltin, hswitch,
        Or.inr ⟨value, items, hvalue, list, hrules⟩⟩

/-- **What is not malformed describes a configuration**, and nothing that is malformed does. -/
lemma malformed_iff {text : String} : Malformed text ↔ ¬ ∃ config, Describes text config := by
  constructor
  · rintro h ⟨config, entries, hread, hdocument⟩
    obtain ⟨hkinds, hrules⟩ := exists_ofDocument_iff.mp ⟨config, hdocument⟩
    cases h with
    | unreadable hnone =>
      rw [hnone] at hread
      cases hread
    | mistyped hread' hno =>
      obtain rfl := Option.some.inj (hread.symm.trans hread')
      exact hkinds hno
    | unlisted hread' hvalue hno =>
      obtain rfl := Option.some.inj (hread.symm.trans hread')
      obtain ⟨items, list, -⟩ := hrules _ hvalue
      exact hno items list
    | rule hread' hvalue list hmem hno =>
      obtain rfl := Option.some.inj (hread.symm.trans hread')
      obtain ⟨items, list', hitems⟩ := hrules _ hvalue
      exact hitems _ (list.unique list' ▸ hmem) hno
  · intro h
    by_contra hno
    cases hread : Toml.read? text.toList with
    | none => exact hno (.unreadable hread)
    | some entries =>
      obtain ⟨config, hconfig⟩ := exists_ofDocument_iff.mpr
        ⟨fun hmis => hno (.mistyped hread hmis), fun value hvalue => by
          obtain ⟨items, list⟩ : ∃ items, Lists value items := by
            by_contra hlist
            exact hno (.unlisted hread hvalue (not_exists.mp hlist))
          exact ⟨items, list, fun item hitem hmis => hno (.rule hread hvalue list hitem hmis)⟩⟩
      exact h ⟨config, entries, hread, hconfig⟩

end Config

end StablePath
