import StablePath.Config.Cascade
import StablePath.CommandLine.Arguments
import StablePath.Text.Basic

/-!
What the program prints.
-/

namespace StablePath.CommandLine

/-- The end of a run: the exit code and the texts for the two outputs. -/
structure Report where
  code : UInt32 := 0
  output : String := ""
  errors : String := ""
  deriving DecidableEq, Repr

namespace Report

def failure (output message : String) : Report :=
  { code := 1, output, errors := "error: " ++ message ++ "\n" }

/-- A failure and its cause. -/
def failureBecause (message : String) (cause : Fault) : Report :=
  failure "" (message ++ "\n\nCaused by:\n    " ++ cause.message)

end Report

def unlines (lines : List String) : String := String.join (lines.map (· ++ "\n"))

/-! ### Reducing -/

/-- The text that a path is reduced to. -/
def reduced? (ruleset : Ruleset) (sighting : Sighting) (path : String) : Option String :=
  (ruleset.reduce? sighting path.toList).map fun reduction => String.ofList reduction.path

/-- Prints what paths are reduced to, up to the first that cannot be read. -/
def reduceAll (ruleset : Ruleset) (sighting : Sighting) (paths : List (Option String)) : Report :=
  let known := (paths.takeWhile Option.isSome).filterMap id
  match known.mapM (reduced? ruleset sighting) with
  | none => .failure "" "Failed to reduce a path"
  | some lines =>
    if paths.all Option.isSome then { output := unlines lines }
    else .failure (unlines lines) "Failed to read stdin"

/-- Reduces the paths that are given, or the lines of the input if there are none. -/
def reduce (ruleset : Ruleset) (sighting : Sighting) (paths : List String) (input : List UInt8) :
    Report :=
  reduceAll ruleset sighting
    (if paths.isEmpty then (Text.lines input).map Text.decode? else paths.map some)

/-! ### Showing rules and configurations -/

/-- A line for an option that is given. -/
def optionLine (label : String) (value : Option String) : List String :=
  (value.map fun value => label ++ value).toList

def ruleLines (number : Nat) (rule : Rule) : List String :=
  ["Rule " ++ toString number ++ ": " ++ rule.name,
    "    pattern: " ++ rule.pattern.text] ++
  optionLine "    hint: " rule.hint ++
  ["    pre-check: " ++ rule.gate.describe,
    "    rewrite: " ++ rule.edit.describe,
    "    source: " ++ rule.source.getD "built-in",
    ""]

def showRules (ruleset : Ruleset) : String :=
  if ruleset.rules.isEmpty then "No rules configured.\n"
  else unlines (ruleset.rules.zipIdx.flatMap fun (rule, i) => ruleLines (i + 1) rule)

def entryLines (number : Nat) (entry : RuleEntry) : List String :=
  ["  Rule " ++ toString number ++ ":"] ++
  optionLine "    name: " entry.name ++
  ["    pattern: " ++ entry.pattern] ++
  optionLine "    hint: " entry.hint ++
  optionLine "    filesystem: " entry.filesystem ++
  optionLine "    min_hex_run: " (entry.minHexRun.map toString) ++
  optionLine "    group: " (entry.group.map toString) ++
  optionLine "    replacement: " entry.replacement ++
  (if entry.pidAware then ["    pid_aware: true"] else []) ++
  [""]

def layerLines (layer : Layer) : List String :=
  let config := layer.config
  ["# Source: " ++ layer.path,
    "# root: " ++ toString config.root,
    "# disable-builtin-rules: " ++ toString config.disableBuiltin] ++
  optionLine "# root-config-lookup-disable-env-var: " config.homeSwitch ++
  ["# rules: " ++ toString config.rules.length,
    ""] ++
  config.rules.zipIdx.flatMap fun (entry, i) => entryLines (i + 1) entry

def noFiles : String := "No configuration files found.\n"

def showConfig (around : Surroundings) (layers : List Layer) : String :=
  if layers.isEmpty then noFiles
  else
    let home := around.home.join Config.fileName
    unlines (["Configuration files (in cascade order):", ""] ++ layers.flatMap layerLines ++
      ["User config path: " ++ String.ofList home,
        if around.find home = .missing then "  (not found)" else "  (exists)"])

def validateConfig (layers : List Layer) : String :=
  if layers.isEmpty then noFiles
  else unlines ("All configuration files are valid:" :: layers.map fun layer =>
    "  " ++ layer.path ++ " (" ++ toString layer.config.rules.length ++ " rules)")

end StablePath.CommandLine
