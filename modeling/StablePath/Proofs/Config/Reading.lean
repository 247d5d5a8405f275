import StablePath.Proofs.Config.Description
import StablePath.Proofs.Config.Layers

/-!
Reading configurations.

A text that is malformed is refused as that, whatever its rules say. The rules of any other text are
checked one after the other, each by four checks in a fixed order, and the first check that finds
something gives the fault.
-/

namespace StablePath

/-! ### The first that something holds for -/

/-- `b` belongs to the first member of a list that anything belongs to. -/
def FirstOf {α β : Type} (p : α → β → Prop) (xs : List α) (b : β) : Prop :=
  ∃ front x back, xs = front ++ x :: back ∧ (∀ y ∈ front, ∀ b, ¬ p y b) ∧ p x b

section

variable {α β ε : Type} {p : α → β → Prop} {x : α} {xs : List α} {b b' : β}

lemma not_firstOf_nil : ¬ FirstOf p [] b := by
  rintro ⟨front, x, back, hsplit, -⟩
  exact List.append_ne_nil_of_right_ne_nil front (List.cons_ne_nil x back) hsplit.symm

lemma firstOf_cons_iff :
    FirstOf p (x :: xs) b ↔ p x b ∨ (∀ b, ¬ p x b) ∧ FirstOf p xs b := by
  constructor
  · rintro ⟨front, y, back, hsplit, hfront, hy⟩
    cases front with
    | nil =>
      obtain ⟨rfl, -⟩ := List.cons.inj hsplit
      exact Or.inl hy
    | cons z front =>
      obtain ⟨rfl, hxs⟩ := List.cons.inj hsplit
      obtain ⟨hx, hfront⟩ := List.forall_mem_cons.mp hfront
      exact Or.inr ⟨hx, front, y, back, hxs, hfront, hy⟩
  · rintro (hx | ⟨hx, front, y, back, rfl, hfront, hy⟩)
    · exact ⟨[], x, xs, rfl, by simp, hx⟩
    · exact ⟨x :: front, y, back, rfl, List.forall_mem_cons.mpr ⟨hx, hfront⟩, hy⟩

lemma firstOf_cons_of_not (h : ∀ b, ¬ p x b) : FirstOf p (x :: xs) b ↔ FirstOf p xs b := by
  rw [firstOf_cons_iff, or_iff_right (h b), and_iff_right h]

/-- What belongs to the head, and nothing else does, is the first. -/
lemma firstOf_cons_of (h : p x b') (hunique : ∀ b, p x b → b = b') :
    FirstOf p (x :: xs) b ↔ b = b' := by
  rw [firstOf_cons_iff, or_iff_left fun hno => hno.1 b' h]
  exact ⟨hunique b, fun heq => heq ▸ h⟩

/-- There is a first unless nothing belongs to any member. -/
lemma forall_not_firstOf_iff : (∀ b, ¬ FirstOf p xs b) ↔ ∀ x ∈ xs, ∀ b, ¬ p x b := by
  induction xs with
  | nil => exact iff_of_true (fun b => not_firstOf_nil) (by simp)
  | cons x xs ih =>
    rw [List.forall_mem_cons, ← ih]
    constructor
    · intro h
      have hx : ∀ b, ¬ p x b := fun b hb => h b (firstOf_cons_iff.mpr (Or.inl hb))
      exact ⟨hx, fun b hb => h b ((firstOf_cons_of_not hx).mpr hb)⟩
    · rintro ⟨hx, hxs⟩ b hb
      exact hxs b ((firstOf_cons_of_not hx).mp hb)

lemma forM_eq_error_iff {f : α → Except ε Unit} {fault : ε} :
    xs.forM f = .error fault ↔ FirstOf (fun x fault => f x = .error fault) xs fault := by
  induction xs with
  | nil => exact iff_of_false (fun h => by cases h) not_firstOf_nil
  | cons x xs ih =>
    have hcons : (x :: xs).forM f = .error fault ↔ f x = .error fault ∨
        ∃ u, f x = .ok u ∧ xs.forM f = .error fault := bind_eq_error
    rw [hcons, firstOf_cons_iff, ← ih]
    refine or_congr_right ?_
    cases f x with
    | error cause => simp
    | ok u => simp

end

/-! ### The checks of a rule -/

namespace RuleEntry

/-- The checks of a rule. -/
inductive Check
  | gates
  | edits
  | pattern
  | group

/-- The checks in the order in which they are made. -/
def Check.inOrder : List Check := [gates, edits, pattern, group]

/-- A check finds a fault in an entry. -/
inductive Finds (entry : RuleEntry) : Check → Fault → Prop
  | gates (filesystem : entry.filesystem ≠ none) (run : entry.minHexRun ≠ none) :
      Finds entry .gates (.exclusive "filesystem" "min_hex_run")
  | edits (pid : entry.pidAware = true) (replacement : entry.replacement ≠ none) :
      Finds entry .edits (.exclusive "pid_aware" "replacement")
  | pattern (h : Pattern.read? entry.pattern = none) :
      Finds entry .pattern (.badPattern entry.pattern)
  | group {pattern n} (read : Pattern.read? entry.pattern = some pattern)
      (given : entry.group = some n) (h : pattern.groupCount ≤ n) :
      Finds entry .group (.noSuchGroup entry.pattern n)

/-- The fault of an entry is what the first of its checks finds that finds any. -/
def FirstFault (entry : RuleEntry) (fault : Fault) : Prop := FirstOf entry.Finds Check.inOrder fault

variable {entry : RuleEntry} {check : Check} {fault fault' : Fault}

lemma Finds.unique (h : entry.Finds check fault) (h' : entry.Finds check fault') :
    fault = fault' := by
  cases h with
  | gates | edits | pattern =>
    cases h'
    rfl
  | group _ given _ =>
    cases h' with
    | group _ given' _ => rw [Option.some.inj (given.symm.trans given')]

lemma text_of_read {text : String} {pattern : Pattern} (h : Pattern.read? text = some pattern) :
    pattern.text = text := by
  unfold Pattern.read? at h
  split at h
  · split_ifs at h
    rw [← Option.some.inj h]
  · cases h

lemma targetGroup_lt (pattern : Pattern) (h : entry.group = none) :
    entry.targetGroup pattern < pattern.groupCount := by
  unfold targetGroup
  rw [h, Option.getD_none]
  split_ifs with hcount
  · exact hcount
  · exact Nat.succ_pos _

lemma group_edit (entry : RuleEntry) (pattern : Pattern) :
    (entry.edit pattern).group = entry.targetGroup pattern := by
  unfold edit
  dsimp only
  split_ifs <;> rfl

lemma toRule_of_clash (h : entry.clash? = some fault) : entry.toRule = .error fault := by
  unfold toRule
  rw [h]
  rfl

lemma toRule_of_unread (hclash : entry.clash? = none) (h : Pattern.read? entry.pattern = none) :
    entry.toRule = .error (.badPattern entry.pattern) := by
  unfold toRule Rule.readPattern
  rw [hclash, h]
  rfl

/-- An entry whose pattern is read is a rule exactly if the pattern has the group to be edited. -/
lemma toRule_of_read {pattern : Pattern} (hclash : entry.clash? = none)
    (h : Pattern.read? entry.pattern = some pattern) :
    entry.toRule = .error fault ↔ pattern.groupCount ≤ entry.targetGroup pattern ∧
      fault = .noSuchGroup entry.pattern (entry.targetGroup pattern) := by
  have htoRule : entry.toRule = Rule.ofPattern entry.title pattern (entry.edit pattern) >>=
      fun rule => .ok { rule with gate := entry.gate, hint := entry.hint } := by
    unfold toRule Rule.readPattern
    rw [hclash, h]
    rfl
  rw [htoRule, ← group_edit, ← text_of_read h, Rule.ofPattern]
  split_ifs with hlt
  · exact iff_of_false (fun heq => by cases heq) fun hle => absurd hle.1 (Nat.not_le_of_lt hlt)
  · refine ⟨fun heq => ⟨Nat.le_of_not_lt hlt, (Except.error.inj heq).symm⟩, ?_⟩
    rintro ⟨-, rfl⟩
    rfl

lemma clash?_eq_none (hgates : ∀ fault, ¬ entry.Finds .gates fault)
    (hedits : ∀ fault, ¬ entry.Finds .edits fault) : entry.clash? = none := by
  unfold clash?
  split_ifs with hpair hpair'
  · rw [Bool.and_eq_true, Option.isSome_iff_ne_none, Option.isSome_iff_ne_none] at hpair
    exact absurd (.gates hpair.1 hpair.2) (hgates _)
  · rw [Bool.and_eq_true, Option.isSome_iff_ne_none] at hpair'
    exact absurd (.edits hpair'.1 hpair'.2) (hedits _)
  · rfl

lemma clash?_of_gates (h : entry.Finds .gates fault) : entry.clash? = some fault := by
  cases h with
  | gates filesystem run =>
    unfold clash?
    rw [if_pos]
    simp [Option.isSome_iff_ne_none, filesystem, run]

lemma clash?_of_edits (hgates : ∀ fault, ¬ entry.Finds .gates fault)
    (h : entry.Finds .edits fault) : entry.clash? = some fault := by
  cases h with
  | edits pid replacement =>
    unfold clash?
    rw [if_neg, if_pos]
    · simp [Option.isSome_iff_ne_none, pid, replacement]
    · rw [Bool.and_eq_true, Option.isSome_iff_ne_none, Option.isSome_iff_ne_none]
      exact fun hpair => hgates _ (.gates hpair.1 hpair.2)

/-- **An entry is refused with the fault of its first check that finds one.** -/
lemma toRule_eq_error_iff : entry.toRule = .error fault ↔ entry.FirstFault fault := by
  have hfound {cause : Fault} {check : Check} {checks : List Check} (h : entry.Finds check cause)
      (htoRule : entry.toRule = .error cause) :
      entry.toRule = .error fault ↔ FirstOf entry.Finds (check :: checks) fault := by
    rw [firstOf_cons_of h fun other hother => hother.unique h, htoRule, Except.error.injEq, eq_comm]
  unfold FirstFault Check.inOrder
  -- check by check: one that finds nothing is left out of the list
  by_cases hgates : ∃ cause, entry.Finds .gates cause
  · obtain ⟨cause, h⟩ := hgates
    exact hfound h (toRule_of_clash (clash?_of_gates h))
  rw [not_exists] at hgates
  rw [firstOf_cons_of_not hgates]
  by_cases hedits : ∃ cause, entry.Finds .edits cause
  · obtain ⟨cause, h⟩ := hedits
    exact hfound h (toRule_of_clash (clash?_of_edits hgates h))
  rw [not_exists] at hedits
  rw [firstOf_cons_of_not hedits]
  have hclash := clash?_eq_none hgates hedits
  cases hread : Pattern.read? entry.pattern with
  | none => exact hfound (.pattern hread) (toRule_of_unread hclash hread)
  | some pattern =>
    have hpattern : ∀ cause, ¬ entry.Finds .pattern cause := by
      intro cause h
      cases h with
      | pattern hnone => exact absurd (hread.symm.trans hnone) (Option.some_ne_none _)
    rw [firstOf_cons_of_not hpattern, firstOf_cons_iff,
      or_iff_left fun hno => not_firstOf_nil hno.2, toRule_of_read hclash hread]
    constructor
    · rintro ⟨hle, rfl⟩
      cases hgroup : entry.group with
      | none => exact absurd (targetGroup_lt pattern hgroup) (Nat.not_lt_of_le hle)
      | some n =>
        have htarget : entry.targetGroup pattern = n := by rw [targetGroup, hgroup]; rfl
        rw [htarget] at hle ⊢
        exact .group hread hgroup hle
    · intro h
      cases h with
      | group hread' hgroup hle =>
        obtain rfl := Option.some.inj (hread.symm.trans hread')
        rw [targetGroup, hgroup]
        exact ⟨hle, rfl⟩

lemma forall_not_firstFault_iff :
    (∀ fault, ¬ entry.FirstFault fault) ↔ ∀ check fault, ¬ entry.Finds check fault := by
  refine forall_not_firstOf_iff.trans ⟨fun h check => h check ?_, fun h check _ => h check⟩
  cases check <;> simp [Check.inOrder]

end RuleEntry

/-! ### Reading -/

namespace Config

variable {path text : String} {config : Config} {fault : Fault}

/-- A text that describes a configuration is read as that one, if it passes its check. -/
lemma read_of_describes (h : Describes text config) :
    read path text = config.check >>= fun _ => .ok config := by
  unfold read
  rw [ofText?_eq_some.mpr h]
  rfl

lemma read_of_malformed (h : Malformed text) : read path text = .error (.fileMalformed path) := by
  have hnone : ofText? text = none := by
    rw [Option.eq_none_iff_forall_ne_some]
    exact fun config hconfig => malformed_iff.mp h ⟨config, ofText?_eq_some.mp hconfig⟩
  unfold read
  rw [hnone]

lemma check_eq_error_iff :
    config.check = .error fault ↔ FirstOf RuleEntry.FirstFault config.rules fault := by
  have hentry : ∀ (entry : RuleEntry) (fault : Fault),
      discard entry.toRule = .error fault ↔ entry.FirstFault fault := by
    intro entry fault
    rw [← RuleEntry.toRule_eq_error_iff]
    cases entry.toRule with
    | ok rule => exact iff_of_false (fun h => by cases h) (fun h => by cases h)
    | error cause => exact ⟨fun h => by cases h; rfl, fun h => by cases h; rfl⟩
  unfold check
  rw [forM_eq_error_iff]
  simp only [hentry]

lemma check_eq_ok_iff : config.check = .ok () ↔
    ∀ entry ∈ config.rules, ∀ check fault, ¬ entry.Finds check fault := by
  have hok : config.check = .ok () ↔ ∀ fault, config.check ≠ .error fault := by
    cases config.check <;> simp
  simp only [hok, ne_eq, check_eq_error_iff, forall_not_firstOf_iff,
    RuleEntry.forall_not_firstFault_iff]

lemma read_eq_ok_iff : read path text = .ok config ↔ Describes text config ∧
    ∀ entry ∈ config.rules, ∀ check fault, ¬ entry.Finds check fault := by
  rw [← check_eq_ok_iff]
  constructor
  · intro hread
    have hdescribes : ∃ other, Describes text other := by
      by_contra hno
      rw [read_of_malformed (malformed_iff.mpr hno)] at hread
      cases hread
    obtain ⟨other, hother⟩ := hdescribes
    rw [read_of_describes hother] at hread
    obtain ⟨_, hcheck, hsame⟩ := bind_eq_ok.mp hread
    obtain rfl := Except.ok.inj hsame
    exact ⟨hother, hcheck⟩
  · rintro ⟨h, hcheck⟩
    rw [read_of_describes h, hcheck]
    rfl

lemma read_eq_error_iff : read path text = .error fault ↔
    Malformed text ∧ fault = .fileMalformed path ∨
      ∃ config, Describes text config ∧ FirstOf RuleEntry.FirstFault config.rules fault := by
  simp only [← check_eq_error_iff]
  constructor
  · intro hread
    by_cases hmalformed : Malformed text
    · rw [read_of_malformed hmalformed] at hread
      exact Or.inl ⟨hmalformed, (Except.error.inj hread).symm⟩
    · obtain ⟨config, h⟩ := not_not.mp (mt malformed_iff.mpr hmalformed)
      rw [read_of_describes h] at hread
      rcases bind_eq_error.mp hread with hcheck | ⟨_, -, hno⟩
      · exact Or.inr ⟨config, h, hcheck⟩
      · cases hno
  · rintro (⟨hmalformed, rfl⟩ | ⟨config, h, hcheck⟩)
    · exact read_of_malformed hmalformed
    · rw [read_of_describes h, hcheck]
      rfl

/-- **Reading accepts the valid configurations and reports the first fault.** A text is malformed,
or it describes exactly one configuration. It is read as that one if no check finds a fault in any
of its rules. Otherwise the fault is that the text is malformed, whatever its rules say, or else
that of the first rule with a fault. A rule that names no group is not refused for its group. -/
theorem read_reports_first_fault (path text : String) :
    (Malformed text ↔ ¬ ∃ config, Describes text config) ∧
    (∀ config config', Describes text config → Describes text config' → config = config') ∧
    (∀ config, read path text = .ok config ↔ Describes text config ∧
      ∀ entry ∈ config.rules, ∀ check fault, ¬ entry.Finds check fault) ∧
    (∀ fault, read path text = .error fault ↔
      Malformed text ∧ fault = .fileMalformed path ∨
      ∃ config, Describes text config ∧ FirstOf RuleEntry.FirstFault config.rules fault) ∧
    ∀ entry : RuleEntry, entry.group = none → ∀ pattern n,
      entry.toRule ≠ .error (.noSuchGroup pattern n) := by
  refine ⟨malformed_iff, fun _ _ => Describes.unique, fun _ => read_eq_ok_iff,
    fun _ => read_eq_error_iff, fun entry hgroup pattern n hfault => ?_⟩
  obtain ⟨_, check, _, -, -, hfinds⟩ := RuleEntry.toRule_eq_error_iff.mp hfault
  cases hfinds with
  | group _ given _ =>
    rw [hgroup] at given
    cases given

/-- A rule without a pattern makes the text malformed, also behind a rule that is faulty
otherwise. -/
example : read "a.toml" "[[rules]]\npattern = '('\n[[rules]]\nname = 'x'\n" =
    .error (.fileMalformed "a.toml") := by
  decide +kernel

end Config

end StablePath
