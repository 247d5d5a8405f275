import StablePath.Proofs.Builtin.Passes
import StablePath.Proofs.Rule.Composition

/-!
Hints and gates as fast paths.

A hint and a run of digits are looked for because they are cheap to look for. Where they are in
every path in which the pattern of the rule is matched, they decide nothing: what remains is the
kind of filesystem that a gate asks for.
-/

namespace StablePath

/-! ### What a gate asks of the file -/

namespace Gate

/-- Whether a gate leaves a file on a filesystem of some kind to its rule, whatever the path is. -/
def admits (filesystem : Option String) : Gate → Bool
  | .filesystem wanted => filesystem.all (· == wanted)
  | _ => true

/-- A gate that no longer looks for a run in the path. -/
def withoutRun : Gate → Gate
  | .hexRun _ => .always
  | gate => gate

@[simp] lemma admits_none (gate : Gate) : gate.admits none = true := by
  cases gate <;> rfl

@[simp] lemma admits_withoutRun (filesystem : Option String) (gate : Gate) :
    gate.withoutRun.admits filesystem = gate.admits filesystem := by
  cases gate <;> rfl

lemma withoutRun_ne_hexRun (gate : Gate) (length : Nat) : gate.withoutRun ≠ .hexRun length := by
  cases gate <;> simp [withoutRun]

lemma all_passes_iff {gate : Gate} {filesystem : Option String} {path : List Char}
    (hrun : ∀ length, gate = .hexRun length → hasHexRun length path = true) :
    filesystem.all (gate.passes path ·) = true ↔ gate.admits filesystem = true := by
  cases gate with
  | always => cases filesystem <;> simp [passes, admits]
  | filesystem wanted => cases filesystem <;> simp [passes, admits]
  | hexRun length => cases filesystem <;> simp [passes, admits, hrun length rfl]

end Gate

/-! ### Rules whose fast paths are right -/

namespace Rule

variable {rule rule' : Rule} {path : List Char}

/-- The hint and the run of a rule are in every path in which the rule finds something. -/
structure Faithful (rule : Rule) : Prop where
  hint : ∀ path, rule.matchesIn path ≠ [] →
    rule.hint.all (fun hint => Text.occursIn hint.toList path) = true
  run : ∀ path, rule.matchesIn path ≠ [] →
    ∀ length, rule.gate = .hexRun length → hasHexRun length path = true

/-- A rule without its hint and without the run that its gate looks for. -/
def exhaustive (rule : Rule) : Rule := { rule with hint := none, gate := rule.gate.withoutRun }

lemma faithful_exhaustive (rule : Rule) : rule.exhaustive.Faithful :=
  ⟨fun _ _ => rfl, fun _ _ length h => absurd h (rule.gate.withoutRun_ne_hexRun length)⟩

lemma Faithful.acts_iff (h : rule.Faithful) (filesystem : Option String) (path : List Char) :
    rule.Acts filesystem path ↔ rule.gate.admits filesystem = true ∧ rule.matchesIn path ≠ [] := by
  refine and_congr_left fun hfound => ?_
  unfold isCandidate
  rw [Bool.and_eq_true, Gate.all_passes_iff (h.run path hfound)]
  exact and_iff_left (h.hint path hfound)

/-- How a rule reduces a path depends on its pattern, its edit and the process, and for the rest on
whether it acts. -/
lemma reduce?_congr (hpattern : rule'.pattern = rule.pattern) (hedit : rule'.edit = rule.edit)
    {sighting sighting' : Sighting} (hpid : sighting'.pid = sighting.pid)
    (hacts : rule'.Acts sighting'.filesystem path ↔ rule.Acts sighting.filesystem path) :
    rule'.reduce? sighting' path = rule.reduce? sighting path := by
  by_cases h : rule.Acts sighting.filesystem path
  · have h' := hacts.mpr h
    obtain ⟨⟨out, edited⟩, hreduce, hedited, -⟩ := rule.exists_reduce? sighting path
    obtain ⟨⟨out', edited'⟩, hreduce', hedited', -⟩ := rule'.exists_reduce? sighting' path
    obtain rfl : edited = true := hedited.mpr h
    obtain rfl : edited' = true := hedited'.mpr h'
    obtain ⟨_, hreduced, hover⟩ := reduce?_eq h.1
    obtain ⟨_, hreduced', hover'⟩ := reduce?_eq h'.1
    obtain rfl := Option.some.inj (hreduce.symm.trans hreduced)
    obtain rfl := Option.some.inj (hreduce'.symm.trans hreduced')
    unfold spans matchesIn at hover hover'
    rw [hpattern, hedit, hpid] at hover'
    obtain rfl : out' = out := hover'.unique hover
    rw [hreduce, hreduce']
  · rw [reduce?_of_not_acts h, reduce?_of_not_acts (mt hacts.mp h)]

lemma Faithful.reduce?_exhaustive (h : rule.Faithful) (sighting : Sighting) (path : List Char) :
    rule.exhaustive.reduce? sighting path = rule.reduce? sighting path := by
  have hsame : rule.exhaustive.pattern = rule.pattern ∧ rule.exhaustive.edit = rule.edit :=
    ⟨rfl, rfl⟩
  refine reduce?_congr hsame.1 hsame.2 rfl ?_
  rw [h.acts_iff, rule.faithful_exhaustive.acts_iff]
  exact and_congr_left fun _ => by rw [exhaustive, Gate.admits_withoutRun]

/-- A rule that the gate leaves a file to reduces as if nothing were known about the file. -/
lemma Faithful.reduce?_of_admits (h : rule.Faithful) {filesystem : Option String} (pid : UInt32)
    (path : List Char) (hadmits : rule.gate.admits filesystem = true) :
    rule.reduce? ⟨filesystem, pid⟩ path = rule.reduce? ⟨none, pid⟩ path := by
  refine reduce?_congr rfl rfl rfl ?_
  rw [h.acts_iff, h.acts_iff, hadmits, Gate.admits_none]

lemma Faithful.reduce?_of_not_admits (h : rule.Faithful) {filesystem : Option String}
    (pid : UInt32) (path : List Char) (hadmits : ¬ rule.gate.admits filesystem = true) :
    rule.reduce? ⟨filesystem, pid⟩ path = some ⟨path, false⟩ :=
  reduce?_of_not_acts fun hacts => hadmits ((h.acts_iff _ _).mp hacts).1

end Rule

namespace Ruleset

variable {rules : List Rule} (h : ∀ rule ∈ rules, rule.Faithful)

include h

lemma reduce?_exhaustive (sighting : Sighting) (path : List Char) :
    (⟨rules.map Rule.exhaustive⟩ : Ruleset).reduce? sighting path =
      (⟨rules⟩ : Ruleset).reduce? sighting path := by
  induction rules generalizing path with
  | nil => rfl
  | cons rule rules ih =>
    obtain ⟨hrule, hrules⟩ := List.forall_mem_cons.mp h
    rw [List.map_cons, reduce?_cons, reduce?_cons, hrule.reduce?_exhaustive]
    exact congrArg _ (funext fun first => by rw [ih hrules])

/-- All that counts about a file is which rules its filesystem leaves. -/
lemma reduce?_filter_admits (filesystem : Option String) (pid : UInt32) (path : List Char) :
    (⟨rules.filter fun rule => rule.gate.admits filesystem⟩ : Ruleset).reduce? ⟨none, pid⟩ path =
      (⟨rules⟩ : Ruleset).reduce? ⟨filesystem, pid⟩ path := by
  induction rules generalizing path with
  | nil => rfl
  | cons rule rules ih =>
    obtain ⟨hrule, hrules⟩ := List.forall_mem_cons.mp h
    by_cases hadmits : rule.gate.admits filesystem = true
    · rw [List.filter_cons, if_pos hadmits, reduce?_cons, reduce?_cons,
        hrule.reduce?_of_admits pid path hadmits]
      exact congrArg _ (funext fun first => by rw [ih hrules])
    · rw [List.filter_cons, if_neg hadmits, reduce?_cons,
        hrule.reduce?_of_not_admits pid path hadmits, Option.bind_some, ih hrules,
        Reduction.andThen_unedited, Option.map_id]
      rfl

end Ruleset

/-! ### The built-in rules -/

namespace Builtin

open Pattern Text

lemma Made.faithful_of_around {rule : Rule} {term : Term} {edit : Edit} {hint : String}
    {gate : Gate} (hmade : Made rule term edit (some hint) gate)
    (hgate : ∀ length, gate ≠ .hexRun length) {leads tails : List (List Char)} {lo : Nat}
    {p : Char → Bool}
    (hfinds : term.Finds edit.group (Longest (Around leads lo p tails))
      (NoHit (Around leads lo p tails)))
    (hhint : ∀ lead ∈ leads, occursIn hint.toList lead = true) : rule.Faithful := by
  obtain ⟨rfl, rfl, hhint_eq, rfl⟩ := hmade
  refine ⟨fun path hfound => ?_, fun _ _ length h => absurd h (hgate length)⟩
  obtain ⟨hit, hlongest, hsuffix⟩ := Rule.exists_hit_of_matchesIn hfinds hfound
  rw [hhint_eq, Option.all_some]
  exact occursIn_of_around hhint hlongest.1 hsuffix

lemma Made.faithful_containerId {rule : Rule}
    (hmade : Made rule containerIdTerm (wildcard 0) none (.hexRun containerIdLength)) :
    rule.Faithful := by
  obtain ⟨hterm, -, hhint, hgate⟩ := hmade
  refine ⟨fun path _ => by rw [hhint]; rfl, fun path hfound length hlength => ?_⟩
  obtain rfl : containerIdLength = length := Gate.hexRun.inj (hgate.symm.trans hlength)
  obtain ⟨hit, hid, hsuffix⟩ := Rule.exists_hit_of_matchesIn (hterm ▸ finds_id) hfound
  exact hasHexRun_of_isId hid hsuffix

lemma onSysfs_ne_hexRun (length : Nat) : onSysfs ≠ .hexRun length := by
  simp [onSysfs]

lemma Seven.faithful {rs four : List Rule} (h : Seven rs four) : ∀ rule ∈ rs, rule.Faithful := by
  cases h with
  | mk pid thread pod containerd id' device token =>
  have hpid := pid.faithful_of_around (by simp) (finds_segment "proc") (by decide +kernel)
  have hthread := thread.faithful_of_around (by simp) (finds_segment "task") (by decide +kernel)
  have hpod := pod.faithful_of_around onSysfs_ne_hexRun (finds_cgroup "kubepods-" (by decide))
    (by decide +kernel)
  have hcontainerd := containerd.faithful_of_around onSysfs_ne_hexRun
    (finds_cgroup "cri-containerd-" (by decide)) (by decide +kernel)
  have hdevice := device.faithful_of_around onSysfs_ne_hexRun finds_device (by decide +kernel)
  have htoken := token.faithful_of_around (by simp) finds_token (by decide +kernel)
  simp only [List.forall_mem_cons]
  exact ⟨hpid, hthread, hpod, hcontainerd, id'.faithful_containerId, hdevice, htoken, by simp⟩

/-- The gates of the built-in rules ask for sysfs or for no filesystem. -/
lemma Seven.admits_sysfs {rs four : List Rule} (h : Seven rs four) :
    ∀ rule ∈ rs, rule.gate.admits (some sysfs) = true := by
  cases h with
  | mk pid thread pod containerd id' device token =>
  simp [pid.gate_eq, thread.gate_eq, pod.gate_eq, containerd.gate_eq, id'.gate_eq, device.gate_eq,
    token.gate_eq, Gate.admits, onSysfs]

lemma Seven.filter_admits {rs four : List Rule} (h : Seven rs four) {kind : String}
    (hkind : kind ≠ sysfs) : (rs.filter fun rule => rule.gate.admits (some kind)) = four := by
  cases h with
  | mk pid thread pod containerd id' device token =>
  simp [pid.gate_eq, thread.gate_eq, pod.gate_eq, containerd.gate_eq, id'.gate_eq, device.gate_eq,
    token.gate_eq, Gate.admits, onSysfs, hkind]

/-- **The fast paths of the built-in rules change no outcome.** Without any hint, and without the
run of digits that is looked for before a container id, every path is reduced to the same text and
edited in the same cases. So all that counts about a file is whether it is on sysfs: there the rules
reduce as if nothing were known about the file, and elsewhere as only those rules do that do not ask
for a filesystem. -/
theorem reduce?_without_fast_paths : ∃ rules four, ruleset = .ok rules ∧
    [processPid, threadId, containerId, serviceAccountToken].mapM id = .ok four ∧
    ∀ filesystem pid path, ∃ reduction,
      rules.reduce? ⟨filesystem, pid⟩ path = some reduction ∧
      (⟨rules.rules.map Rule.exhaustive⟩ : Ruleset).reduce? ⟨filesystem, pid⟩ path =
        some reduction ∧
      (filesystem = some sysfs → rules.reduce? ⟨none, pid⟩ path = some reduction) ∧
      (∀ kind, filesystem = some kind → kind ≠ sysfs →
        (⟨four⟩ : Ruleset).reduce? ⟨none, pid⟩ path = some reduction) := by
  obtain ⟨rs, four, hrules, hfour, hseven⟩ := exists_seven
  have hfaithful := hseven.faithful
  refine ⟨⟨rs⟩, four, by rw [ruleset, hrules]; rfl, hfour, fun filesystem pid path => ?_⟩
  obtain ⟨reduction, hreduction, -⟩ := Ruleset.exists_reduce? rs ⟨filesystem, pid⟩ path
  refine ⟨reduction, hreduction, ?_, ?_, ?_⟩
  · rw [Ruleset.reduce?_exhaustive hfaithful, hreduction]
  · rintro rfl
    rw [← hreduction, ← Ruleset.reduce?_filter_admits hfaithful (some sysfs),
      List.filter_eq_self.mpr hseven.admits_sysfs]
  · rintro kind rfl hkind
    rw [← hreduction, ← Ruleset.reduce?_filter_admits hfaithful (some kind),
      hseven.filter_admits hkind]

end Builtin

end StablePath
