import StablePath.Config.Reader
import StablePath.Proofs.Builtin.Passes
import StablePath.Proofs.Rule.Composition

/-!
Rulesets of layers.

A configuration is checked when it is read, and its rules are made again when the layers have been
merged. What has passed the check can be made, in any company. The rules of a layer stay together,
so the ruleset of some layers works as the built-in rules and then the layers one by one.
-/

namespace StablePath

/-! ### Faults on the way -/

section

variable {ε α β : Type}

lemma bind_eq_ok {x : Except ε α} {f : α → Except ε β} {b : β} :
    (x >>= f) = .ok b ↔ ∃ a, x = .ok a ∧ f a = .ok b := by
  cases x with
  | error fault => exact iff_of_false (fun h => by cases h) (fun ⟨_, h, _⟩ => by cases h)
  | ok a => exact ⟨fun h => ⟨a, rfl, h⟩, fun ⟨_, h, hf⟩ => by cases h; exact hf⟩

lemma bind_eq_error {x : Except ε α} {f : α → Except ε β} {fault : ε} :
    (x >>= f) = .error fault ↔ x = .error fault ∨ ∃ a, x = .ok a ∧ f a = .error fault := by
  cases x with
  | error cause =>
    refine ⟨fun h => Or.inl (by cases h; rfl), ?_⟩
    rintro (h | ⟨_, h, _⟩)
    · cases h
      rfl
    · cases h
  | ok a =>
    refine ⟨fun h => Or.inr ⟨a, rfl, h⟩, ?_⟩
    rintro (h | ⟨_, h, hf⟩)
    · cases h
    · cases h
      exact hf

lemma mapM_eq_ok_iff {f : α → Except ε β} {xs : List α} {ys : List β} :
    xs.mapM f = .ok ys ↔ List.Forall₂ (fun x y => f x = .ok y) xs ys := by
  induction xs generalizing ys with
  | nil =>
    rw [List.mapM_nil, List.forall₂_nil_left_iff]
    exact ⟨fun h => (Except.ok.inj h).symm, fun h => h ▸ rfl⟩
  | cons x xs ih =>
    rw [List.mapM_cons, bind_eq_ok, List.forall₂_cons_left_iff]
    refine exists_congr fun y => ?_
    constructor
    · rintro ⟨hy, hmore⟩
      obtain ⟨ys', hys, hout⟩ := bind_eq_ok.mp hmore
      exact ⟨ys', hy, ih.mp hys, (Except.ok.inj hout).symm⟩
    · rintro ⟨ys', hy, hys, rfl⟩
      exact ⟨hy, bind_eq_ok.mpr ⟨ys', ih.mpr hys, rfl⟩⟩

lemma exists_mapM {f : α → Except ε β} {xs : List α} (h : ∀ x ∈ xs, ∃ y, f x = .ok y) :
    ∃ ys, xs.mapM f = .ok ys := by
  induction xs with
  | nil => exact ⟨[], rfl⟩
  | cons x xs ih =>
    obtain ⟨⟨y, hy⟩, hxs⟩ := List.forall_mem_cons.mp h
    obtain ⟨ys, hys⟩ := ih hxs
    refine ⟨y :: ys, mapM_eq_ok_iff.mpr (.cons hy ?_)⟩
    exact mapM_eq_ok_iff.mp hys

lemma of_forM {f : α → Except ε Unit} {xs : List α} (h : xs.forM f = .ok ()) :
    ∀ x ∈ xs, f x = .ok () := by
  induction xs with
  | nil => simp
  | cons x xs ih =>
    obtain ⟨_, hx, hxs⟩ := bind_eq_ok.mp h
    exact List.forall_mem_cons.mpr ⟨hx, ih hxs⟩

end

/-! ### What has been read can be made -/

/-- The configuration of a layer has been read from a text without a fault. -/
def Layer.Accepted (layer : Layer) : Prop :=
  ∃ text, Config.read layer.path text = .ok layer.config

/-- Reading a configuration makes all its rules. -/
lemma Layer.Accepted.exists_toRule {layer : Layer} (h : layer.Accepted) :
    ∀ entry ∈ layer.config.rules, ∃ rule, entry.toRule = .ok rule := by
  obtain ⟨text, hread⟩ := h
  unfold Config.read at hread
  split at hread
  · cases hread
  next config hconfig =>
    obtain ⟨⟨⟩, hcheck, hsame⟩ := bind_eq_ok.mp hread
    obtain rfl : config = layer.config := Except.ok.inj hsame
    intro entry hentry
    have hmade := of_forM hcheck entry hentry
    cases hrule : entry.toRule with
    | ok rule => exact ⟨rule, rfl⟩
    | error fault =>
      rw [hrule] at hmade
      cases hmade

namespace SourcedEntry

lemma toRule_eq_ok {sourced : SourcedEntry} {rule : Rule} :
    sourced.toRule = .ok rule ↔
      ∃ made, sourced.entry.toRule = .ok made ∧ rule = { made with source := some sourced.source } := by
  unfold toRule
  rw [bind_eq_ok]
  exact exists_congr fun made => and_congr_right' ⟨fun h => (Except.ok.inj h).symm, fun h => h ▸ rfl⟩

end SourcedEntry

namespace Stack

lemma ofLayers_append (first second : List Layer) :
    ofLayers (first ++ second) = ⟨(ofLayers first).rules ++ (ofLayers second).rules,
      (ofLayers first).disableBuiltin || (ofLayers second).disableBuiltin⟩ := by
  simp [ofLayers]

lemma exists_toRule_of_mem {layers : List Layer} (h : ∀ layer ∈ layers, layer.Accepted) :
    ∀ sourced ∈ (ofLayers layers).rules, ∃ rule, sourced.toRule = .ok rule := by
  intro sourced hsourced
  obtain ⟨layer, hlayer, hmem⟩ := List.mem_flatMap.mp hsourced
  obtain ⟨entry, hentry, rfl⟩ := List.mem_map.mp hmem
  obtain ⟨rule, hrule⟩ := (h layer hlayer).exists_toRule entry hentry
  exact ⟨_, SourcedEntry.toRule_eq_ok.mpr ⟨rule, hrule, rfl⟩⟩

/-- A stack is made into a ruleset by making its rules behind the built-in ones. -/
lemma toRuleset_eq {stack : Stack} {builtin own : List Rule} (hbuiltin : Builtin.rules = .ok builtin)
    (hown : stack.rules.mapM SourcedEntry.toRule = .ok own) :
    stack.toRuleset = .ok ⟨(if stack.disableBuiltin then [] else builtin) ++ own⟩ := by
  unfold toRuleset
  rw [hown, hbuiltin]
  cases stack.disableBuiltin <;> rfl

end Stack

/-! ### The built-in rules -/

lemma Rule.source_of_make {name text : String} {edit : Edit} {rule : Rule}
    (h : Rule.make name text edit = .ok rule) : rule.source = none := by
  obtain ⟨pattern, -, hrule⟩ := bind_eq_ok.mp h
  unfold Rule.ofPattern at hrule
  split_ifs at hrule
  cases hrule
  rfl

namespace Builtin

section

variable {name text : String} {edit : Edit} {rule : Rule}

/-- What a maker adds to the pattern and the edit of a rule is no file. -/
lemma source_of_maker (more : Rule → Rule) (hmore : ∀ made, (more made).source = made.source)
    (h : (Rule.make name text edit >>= fun made => pure (more made)) = .ok rule) :
    rule.source = none := by
  obtain ⟨made, hmade, hrule⟩ := bind_eq_ok.mp h
  rw [← Except.ok.inj hrule, hmore, Rule.source_of_make hmade]

lemma source_of_hint {hint : String} (h : (Rule.make name text edit >>= fun made =>
    pure { made with hint := some hint }) = .ok rule) : rule.source = none :=
  source_of_maker (fun made => { made with hint := some hint }) (fun _ => rfl) h

lemma source_of_hint_gate {hint : String} {gate : Gate} (h : (Rule.make name text edit >>=
    fun made => pure { made with hint := some hint, gate }) = .ok rule) : rule.source = none :=
  source_of_maker (fun made => { made with hint := some hint, gate }) (fun _ => rfl) h

end

/-- There are seven built-in rules, and none comes from a file. -/
lemma exists_rules : ∃ builtin, rules = .ok builtin ∧ builtin.length = 7 ∧
    ∀ rule ∈ builtin, rule.source = none := by
  obtain ⟨builtin, _, hrules, -, hseven⟩ := exists_seven
  have hmakers := mapM_eq_ok_iff.mp hrules
  refine ⟨builtin, hrules, hmakers.length_eq.symm, ?_⟩
  cases hseven with
  | @mk r₁ r₂ r₃ r₄ r₅ r₆ r₇ =>
  simp only [List.forall₂_cons, id] at hmakers
  obtain ⟨h₁, h₂, h₃, h₄, h₅, h₆, h₇, -⟩ := hmakers
  have hid := source_of_maker (fun made => { made with gate := .hexRun containerIdLength })
    (fun _ => rfl) h₅
  simp only [List.forall_mem_cons]
  exact ⟨source_of_hint h₁, source_of_hint h₂, source_of_hint_gate h₃, source_of_hint_gate h₄, hid,
    source_of_hint_gate h₆, source_of_hint h₇, by simp⟩

end Builtin

namespace Stack

/-- **Layers that have been read are made into a ruleset.** It has the built-in rules, unless a layer
disables them, and behind them one rule for each declared one, layer by layer and in the order of
its file. Such a rule is what the entry makes alone, with the file of its layer; the built-in ones
come from no file. Every rule edits a group that its pattern has. -/
theorem toRuleset_of_accepted {layers : List Layer} (h : ∀ layer ∈ layers, layer.Accepted) :
    ∃ builtin own ruleset, Builtin.rules = .ok builtin ∧ builtin.length = 7 ∧
      (∀ rule ∈ builtin, rule.source = none) ∧ (ofLayers layers).toRuleset = .ok ruleset ∧
      ruleset.rules =
        (if ∃ layer ∈ layers, layer.config.disableBuiltin = true then [] else builtin) ++ own ∧
      List.Forall₂ (fun sourced rule => ∃ made, sourced.entry.toRule = .ok made ∧
          rule = { made with source := some sourced.source })
        (layers.flatMap fun layer =>
          layer.config.rules.map fun entry => (⟨entry, layer.path⟩ : SourcedEntry)) own ∧
      ∀ rule ∈ ruleset.rules, rule.edit.group < rule.pattern.groupCount := by
  obtain ⟨builtin, hbuiltin, hseven, hsource⟩ := Builtin.exists_rules
  obtain ⟨own, hown⟩ := exists_mapM (exists_toRule_of_mem h)
  refine ⟨builtin, own, _, hbuiltin, hseven, hsource, toRuleset_eq hbuiltin hown, ?_, ?_,
    fun rule _ => rule.group_lt⟩
  · simp [ofLayers]
  · exact (mapM_eq_ok_iff.mp hown).imp fun _ _ => SourcedEntry.toRule_eq_ok.mp

/-- A rule for sessions, as a file may declare it. -/
def sessions : Layer :=
  ⟨"/srv/app/.pathreduce.toml", { rules := [{ pattern := "session-([0-9]+)" }] }⟩

/-- A rule for processes that stands in place of the built-in rules. -/
def processes : Layer := ⟨"/srv/.pathreduce.toml",
  { disableBuiltin := true, rules := [{ pattern := "/pid/([0-9]+)/", pidAware := true }] }⟩

lemma accepted_sessions : sessions.Accepted :=
  ⟨"[[rules]]\npattern = 'session-([0-9]+)'\n", by decide +kernel⟩

lemma accepted_processes : processes.Accepted :=
  ⟨"disable-builtin-rules = true\n[[rules]]\npattern = '/pid/([0-9]+)/'\npid_aware = true\n",
    by decide +kernel⟩

theorem toRuleset_of_two_layers : sessions.Accepted ∧ processes.Accepted ∧
    ∃ ruleset, (ofLayers [sessions, processes]).toRuleset = .ok ruleset ∧
      ruleset.rules.map Rule.source =
        [some "/srv/app/.pathreduce.toml", some "/srv/.pathreduce.toml"] := by
  refine ⟨accepted_sessions, accepted_processes, ?_⟩
  obtain ⟨builtin, own, ruleset, -, -, -, hruleset, hrules, hown, -⟩ :=
    @toRuleset_of_accepted [sessions, processes] (by simp [accepted_sessions, accepted_processes])
  refine ⟨ruleset, hruleset, ?_⟩
  cases hown with
  | cons hfirst hmore =>
  cases hmore with
  | cons hsecond hnone =>
  cases hnone
  obtain ⟨first, -, rfl⟩ := hfirst
  obtain ⟨second, -, rfl⟩ := hsecond
  rw [hrules, if_pos ⟨processes, by simp, rfl⟩]
  rfl

end Stack

/-! ### One layer after the other -/

namespace Ruleset

/-- Reduces a path by rulesets, each on what the one before it left. -/
def inTurn? (sighting : Sighting) (rulesets : List Ruleset) (path : List Char) :
    Option (List Char) :=
  rulesets.foldlM (fun path ruleset => (ruleset.reduce? sighting path).map Reduction.path) path

/-- The rules of some rulesets together reduce a path as these do in turn. -/
lemma inTurn?_eq (sighting : Sighting) (rulesets : List Ruleset) (path : List Char) :
    ∃ reduction, (⟨rulesets.flatMap Ruleset.rules⟩ : Ruleset).reduce? sighting path = some reduction ∧
      inTurn? sighting rulesets path = some reduction.path := by
  induction rulesets generalizing path with
  | nil => exact ⟨_, reduce?_nil, rfl⟩
  | cons ruleset rulesets ih =>
    obtain ⟨first, hfirst, -⟩ := exists_reduce? ruleset.rules sighting path
    obtain ⟨next, hnext, hturn⟩ := ih first.path
    refine ⟨first.andThen next, ?_, ?_⟩
    · rw [List.flatMap_cons, reduce?_append, hfirst, Option.bind_some, hnext]
      rfl
    · unfold inTurn? at hturn ⊢
      rw [List.foldlM_cons, hfirst]
      exact hturn

end Ruleset

/-- A ruleset has the rules that a layer declares: for each entry of its file, in order, what the
entry makes alone, with the file as its source. -/
def Layer.Makes (layer : Layer) (own : Ruleset) : Prop :=
  List.Forall₂ (fun entry rule => ∃ made, entry.toRule = .ok made ∧
    rule = { made with source := some layer.path }) layer.config.rules own.rules

namespace Stack

/-- A layer that has been read makes a ruleset of its own. -/
lemma exists_makes {layer : Layer} (h : layer.Accepted) :
    ∃ own, layer.Makes own ∧
      (ofLayers [layer]).rules.mapM SourcedEntry.toRule = .ok own.rules := by
  have hone : ∀ other ∈ [layer], other.Accepted := fun other hother =>
    List.mem_singleton.mp hother ▸ h
  obtain ⟨own, hown⟩ := exists_mapM (exists_toRule_of_mem hone)
  have hrules : (ofLayers [layer]).rules =
      layer.config.rules.map fun entry => ⟨entry, layer.path⟩ := by
    simp [ofLayers]
  rw [hrules] at hown ⊢
  refine ⟨⟨own⟩, ?_, hown⟩
  exact (List.forall₂_map_left_iff.mp (mapM_eq_ok_iff.mp hown)).imp
    fun _ _ => SourcedEntry.toRule_eq_ok.mp

lemma exists_rulesets {layers : List Layer} (h : ∀ layer ∈ layers, layer.Accepted) :
    ∃ owns, List.Forall₂ Layer.Makes layers owns ∧
      (ofLayers layers).rules.mapM SourcedEntry.toRule = .ok (owns.flatMap Ruleset.rules) := by
  induction layers with
  | nil => exact ⟨[], .nil, rfl⟩
  | cons layer layers ih =>
    obtain ⟨hlayer, hlayers⟩ := List.forall_mem_cons.mp h
    obtain ⟨own, hmakes, hown⟩ := exists_makes hlayer
    obtain ⟨owns, howns, hrules⟩ := ih hlayers
    refine ⟨own :: owns, .cons hmakes howns, ?_⟩
    rw [← List.singleton_append, ofLayers_append, mapM_eq_ok_iff, List.flatMap_cons]
    exact List.rel_append (mapM_eq_ok_iff.mp hown) (mapM_eq_ok_iff.mp hrules)

/-- **Layers compose.** The rules of two lists of layers follow each other, and the built-in rules
are disabled if one of the lists disables them. So the ruleset of layers that have been read reduces
every path as the built-in rules do, unless any layer disables these, and then the rules that each
layer declares, one layer after the other. -/
theorem toRuleset_reduces_in_turn :
    (∀ first second, (ofLayers (first ++ second)).rules =
        (ofLayers first).rules ++ (ofLayers second).rules ∧
      ((ofLayers (first ++ second)).disableBuiltin = true ↔
        (ofLayers first).disableBuiltin = true ∨ (ofLayers second).disableBuiltin = true)) ∧
    ∀ layers : List Layer, (∀ layer ∈ layers, layer.Accepted) →
      ∃ all builtin owns, (ofLayers layers).toRuleset = .ok all ∧ Builtin.ruleset = .ok builtin ∧
        List.Forall₂ Layer.Makes layers owns ∧
        ∀ sighting path, ∃ reduction, all.reduce? sighting path = some reduction ∧
          Ruleset.inTurn? sighting
            ((if ∃ layer ∈ layers, layer.config.disableBuiltin = true then [] else [builtin]) ++ owns)
            path = some reduction.path := by
  refine ⟨fun first second => ?_, fun layers h => ?_⟩
  · rw [ofLayers_append]
    exact ⟨rfl, Bool.or_eq_true_iff⟩
  · obtain ⟨builtin, hbuiltin, -⟩ := Builtin.exists_rules
    obtain ⟨owns, howns, hrules⟩ := exists_rulesets h
    refine ⟨_, ⟨builtin⟩, owns, toRuleset_eq hbuiltin hrules, by rw [Builtin.ruleset, hbuiltin]; rfl,
      howns, fun sighting path => ?_⟩
    obtain ⟨reduction, hreduction, hturn⟩ := Ruleset.inTurn?_eq sighting
      ((if ∃ layer ∈ layers, layer.config.disableBuiltin = true then [] else [⟨builtin⟩]) ++ owns) path
    refine ⟨reduction, ?_, hturn⟩
    rw [← hreduction, List.flatMap_append]
    simp only [ofLayers, List.any_eq_true]
    split_ifs <;> simp

theorem toRuleset_reduces_in_turn_two : sessions.Accepted ∧ processes.Accepted ∧
    ∃ all near far, (ofLayers [sessions, processes]).toRuleset = .ok all ∧
      sessions.Makes near ∧ processes.Makes far ∧
      (∀ sighting path, ∃ reduction, all.reduce? sighting path = some reduction ∧
        Ruleset.inTurn? sighting [near, far] path = some reduction.path) ∧
      (all.reduce? ⟨none, 7⟩ "/pid/7/session-12".toList).map Reduction.path =
        some "/pid/self/session-*".toList := by
  refine ⟨accepted_sessions, accepted_processes, ?_⟩
  obtain ⟨all, builtin, owns, hall, -, howns, hreduce⟩ :=
    toRuleset_reduces_in_turn.2 [sessions, processes] (by
      simp [accepted_sessions, accepted_processes])
  cases howns with
  | @cons _ near _ _ hnear hmore =>
  cases hmore with
  | @cons _ far _ _ hfar hnone =>
  cases hnone
  refine ⟨all, near, far, hall, hnear, hfar, fun sighting path => ?_, ?_⟩
  · simpa [processes] using hreduce sighting path
  · have hrun : ((ofLayers [sessions, processes]).toRuleset.toOption.bind fun all =>
        (all.reduce? ⟨none, 7⟩ "/pid/7/session-12".toList).map Reduction.path) =
          some "/pid/self/session-*".toList := by
      decide +kernel
    rw [hall] at hrun
    exact hrun

end Stack

end StablePath
