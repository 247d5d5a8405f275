import StablePath.CommandLine.Run
import StablePath.Proofs.Config.Discovery

/-!
Validating configurations.

The exit code of a command tells whether there are rules to work with. Listing the rules asks for
those that the options select. Validating looks at the cascade, whatever the options say: what has
been discovered can be made into rules, so it agrees with listing the rules without options.
-/

namespace StablePath

open Files (Path)

/-! ### What is discovered can be made -/

namespace Layer

variable {around : Surroundings} {dir start : Path} {layers : List Layer}

lemma IsFileOf.accepted {layer : Layer} (h : IsFileOf around dir layer) : layer.Accepted := by
  obtain ⟨text, -, hread⟩ := h.exists_text
  exact ⟨text, hread⟩

lemma accepted_of_discover (h : discover around start = .ok layers) :
    ∀ layer ∈ layers, layer.Accepted := by
  obtain ⟨found, hcascade⟩ := exists_cascade around start
  rw [hcascade.discover_eq] at h
  subst h
  intro layer hlayer
  obtain ⟨dir, -, hfile⟩ := hcascade.exists_dir layer hlayer
  exact hfile.accepted

end Layer

lemma Stack.exists_toRuleset {layers : List Layer} (h : ∀ layer ∈ layers, layer.Accepted) :
    ∃ ruleset, (ofLayers layers).toRuleset = .ok ruleset := by
  obtain ⟨builtin, hbuiltin, -⟩ := Builtin.exists_rules
  obtain ⟨own, hown⟩ := exists_mapM (exists_toRule_of_mem h)
  exact ⟨_, toRuleset_eq hbuiltin hown⟩

namespace CommandLine

variable {around : Surroundings} {workingDir : Path} {input : List UInt8}

/-! ### The options about configuration -/

/-- Where the rules are to come from. -/
inductive Source
  | cascade
  | builtin
  | file (name : String)

namespace Source

/-- The arguments that choose a source. -/
def args : Source → List String
  | cascade => []
  | builtin => ["--no-config"]
  | file name => ["--config", name]

def options : Source → Options
  | cascade => {}
  | builtin => { noConfig := true }
  | file name => { configFile := some name }

/-- The name of a file is one that an option can be followed by. -/
def Understood : Source → Prop
  | cascade | builtin => True
  | file name => name ≠ "" ∧ isDashed name = false

lemma run_waiting (command : Command) (name : String) :
    Parse.run { level := .leaf command, pending := some .configFile, started := true } [name] =
      if name ≠ "" ∧ isDashed name = false then .run command { configFile := some name }
      else .misuse := by
  by_cases hdashed : isDashed name = true
  · rw [if_neg (by simp [hdashed]), Parse.run]
    -- two hyphens are no name either
    by_cases hdouble : name = "--"
    · subst hdouble
      rfl
    · rw [if_neg hdouble]
      simp [Parse.step, hdashed]
  · have hne : name ≠ "--" := by
      rintro rfl
      exact hdashed (by decide)
    rw [Parse.run, if_neg hne]
    by_cases hempty : name = ""
    · subst hempty
      rfl
    · simp [Parse.step, hdashed, hempty, Options.setValue?, Parse.withOptions, Parse.run,
        Parse.finish, Options.areConsistent]

lemma run_args (source : Source) (command : Command) :
    (source.Understood → Parse.run { level := .leaf command } source.args =
      .run command source.options) ∧
    (¬ source.Understood → Parse.run { level := .leaf command } source.args = .misuse) := by
  cases source with
  | cascade => exact ⟨fun _ => rfl, fun h => absurd trivial h⟩
  | builtin => exact ⟨fun _ => rfl, fun h => absurd trivial h⟩
  | file name =>
    have hwait : Parse.run { level := .leaf command } ["--config", name] = _ :=
      run_waiting command name
    exact ⟨fun h => hwait.trans (if_pos h), fun h => hwait.trans (if_neg h)⟩

end Source

/-! ### What decides about the exit code -/

lemma exists_failure_of_loadRuleset {options : Options} {report : Report}
    (h : loadRuleset around workingDir options = .error report) :
    ∃ message fault, report = .failureBecause message fault := by
  have hcause : ∀ {α : Type} {message : String} {x : Except Fault α},
      x.mapError (Report.failureBecause message) = .error report →
        ∃ message fault, report = .failureBecause message fault := by
    intro α message x hx
    cases x with
    | ok a => cases hx
    | error fault => exact ⟨message, fault, (Except.error.inj hx).symm⟩
  unfold loadRuleset at h
  dsimp only at h
  split_ifs at h
  · exact hcause h
  · split at h
    all_goals
      rcases bind_eq_error.mp h with hstack | ⟨stack, -, hruleset⟩
      · exact hcause hstack
      · exact hcause hruleset

lemma code_of_loadRuleset {options : Options} {report : Report}
    (h : loadRuleset around workingDir options = .error report) :
    report.code = 1 ∧ report.output = "" := by
  obtain ⟨message, fault, rfl⟩ := exists_failure_of_loadRuleset h
  exact ⟨rfl, rfl⟩

lemma code_rules_iff {options : Options} :
    (perform around workingDir input options .rules).code = 0 ↔
      ∃ ruleset, loadRuleset around workingDir options = .ok ruleset := by
  unfold perform
  cases h : loadRuleset around workingDir options with
  | ok ruleset => simp
  | error report => simp [(code_of_loadRuleset h).1]

lemma code_validate_iff {options : Options} :
    (perform around workingDir input options .validateConfig).code = 0 ↔
      ∃ layers, Layer.discover around workingDir = .ok layers := by
  unfold perform
  cases h : Layer.discover around workingDir with
  | ok layers => simp
  | error fault => simp

lemma exists_loadRuleset_iff :
    (∃ ruleset, loadRuleset around workingDir {} = .ok ruleset) ↔
      ∃ layers, Layer.discover around workingDir = .ok layers := by
  have hload : loadRuleset around workingDir {} = (do
      let stack ← (Stack.discover around workingDir).mapError
        (Report.failureBecause "Failed to load configuration")
      stack.toRuleset.mapError (Report.failureBecause "Failed to compile rules")) := rfl
  rw [hload, Stack.discover]
  cases h : Layer.discover around workingDir with
  | error fault => simp [Except.map, Except.mapError, bind, Except.bind]
  | ok layers =>
    obtain ⟨ruleset, hruleset⟩ := Stack.exists_toRuleset (Layer.accepted_of_discover h)
    refine iff_of_true ⟨ruleset, ?_⟩ ⟨layers, rfl⟩
    simp [Except.map, Except.mapError, bind, Except.bind, hruleset]

/-! ### The two commands -/

/-- A command with a choice of a source is carried out if the choice is understood, and else
refused. -/
lemma code_run (around : Surroundings) (workingDir : Path) (input : List UInt8)
    {words : List String} {command : Command}
    (hwords : ∀ args, readArguments (words ++ args) = Parse.run { level := .leaf command } args)
    (source : Source) :
    ((run around workingDir (words ++ source.args) input).code = 0 ↔
      source.Understood ∧ (perform around workingDir input source.options command).code = 0) ∧
    (¬ source.Understood → (run around workingDir (words ++ source.args) input).code = 2) := by
  obtain ⟨hrun, hmisuse⟩ := source.run_args command
  unfold run
  rw [hwords]
  by_cases h : source.Understood
  · rw [hrun h]
    exact ⟨(and_iff_right h).symm, fun hno => absurd h hno⟩
  · rw [hmisuse h]
    have hcode : (2 : UInt32) ≠ 0 := by decide
    exact ⟨iff_of_false hcode fun hboth => h hboth.1, fun _ => rfl⟩

lemma code_rules_builtin (around : Surroundings) (workingDir : Path) (input : List UInt8) :
    (run around workingDir ["rules", "--no-config"] input).code = 0 := by
  have hrun : run around workingDir ["rules", "--no-config"] input =
      perform around workingDir input Source.builtin.options .rules := rfl
  obtain ⟨builtin, hbuiltin, -⟩ := Builtin.exists_rules
  rw [hrun, code_rules_iff]
  refine ⟨⟨builtin⟩, ?_⟩
  unfold loadRuleset Builtin.ruleset
  rw [hbuiltin]
  rfl

/-- **Validating agrees with listing the rules without options**, in all surroundings. With any
choice of a source it ends with exit code 0 exactly if the choice is understood and the rules can be
listed without one. Listing the rules with the choice succeeds exactly if it is understood and the
rules that it stands for can be loaded. What is not understood is refused by both. -/
theorem validate_agrees_with_cascade (around : Surroundings) (workingDir : Path)
    (input : List UInt8) (source : Source) :
    ((run around workingDir (["config", "validate"] ++ source.args) input).code = 0 ↔
      source.Understood ∧ (run around workingDir ["rules"] input).code = 0) ∧
    ((run around workingDir (["rules"] ++ source.args) input).code = 0 ↔
      source.Understood ∧
        ∃ ruleset, loadRuleset around workingDir source.options = .ok ruleset) ∧
    (¬ source.Understood →
      (run around workingDir (["config", "validate"] ++ source.args) input).code = 2 ∧
      (run around workingDir (["rules"] ++ source.args) input).code = 2) := by
  have hvalidate : ∀ args, readArguments (["config", "validate"] ++ args) =
      Parse.run { level := .leaf .validateConfig } args := fun _ => rfl
  have hrules : ∀ args, readArguments (["rules"] ++ args) =
      Parse.run { level := .leaf .rules } args := fun _ => rfl
  obtain ⟨hvalidated, hrefused⟩ := code_run around workingDir input hvalidate source
  obtain ⟨hlisted, hrefused'⟩ := code_run around workingDir input hrules source
  have hplain : (run around workingDir ["rules"] input).code = 0 ↔
      (perform around workingDir input {} .rules).code = 0 :=
    (code_run around workingDir input hrules .cascade).1.trans (and_iff_right trivial)
  refine ⟨?_, ?_, fun h => ⟨hrefused h, hrefused' h⟩⟩
  · rw [hvalidated, hplain, code_validate_iff, code_rules_iff, exists_loadRuleset_iff]
  · rw [hlisted, code_rules_iff]

/-- A root directory with a configuration file that is malformed, and with nothing else. -/
def malformed : Surroundings := .ofTree (.dir [(Config.fileName, .file "[".toUTF8)]) [] [] []

/-- An empty root directory. -/
def bare : Surroundings := .ofTree (.dir []) [] [] []

/-- A choice that makes the rules load does not make the cascade valid, nor the other way round. -/
theorem validate_ignores_source :
    (run malformed ['/'] ["config", "validate", "--no-config"] []).code = 1 ∧
      (run malformed ['/'] ["rules", "--no-config"] []).code = 0 ∧
      (run bare ['/'] ["config", "validate", "--config", "missing.toml"] []).code = 0 ∧
      (run bare ['/'] ["rules", "--config", "missing.toml"] []).code = 1 := by
  refine ⟨?_, code_rules_builtin malformed ['/'] [], ?_, ?_⟩
  all_goals decide +kernel

end CommandLine

end StablePath
