import StablePath.Rule.Builtin

/-!
Configurations, and how they are laid over each other.

A configuration file declares rules. The files that apply in a place form layers, the nearest
first; merged they give a stack of rules, each with the file that it comes from.
-/

namespace StablePath

/-- A rule as it is declared. -/
structure RuleEntry where
  name : Option String := none
  pattern : String
  hint : Option String := none
  filesystem : Option String := none
  minHexRun : Option Nat := none
  group : Option Nat := none
  replacement : Option String := none
  pidAware : Bool := false
  deriving DecidableEq, Repr

namespace RuleEntry

/-- The first pair of options that exclude each other and are both given. -/
def clash? (entry : RuleEntry) : Option Fault :=
  if entry.filesystem.isSome && entry.minHexRun.isSome then
    some (.exclusive "filesystem" "min_hex_run")
  else if entry.pidAware && entry.replacement.isSome then
    some (.exclusive "pid_aware" "replacement")
  else none

def gate (entry : RuleEntry) : Gate :=
  match entry.filesystem, entry.minHexRun with
  | some kind, _ => .filesystem kind
  | none, some length => .hexRun length
  | none, none => .always

/-- The group to be edited: the one that is given, else the first, else the whole match. -/
def targetGroup (entry : RuleEntry) (pattern : Pattern) : Nat :=
  entry.group.getD (if 1 < pattern.groupCount then 1 else 0)

def edit (entry : RuleEntry) (pattern : Pattern) : Edit :=
  let group := entry.targetGroup pattern
  if entry.pidAware then .pid group else .literal group (entry.replacement.getD "*")

def title (entry : RuleEntry) : String := entry.name.getD ("custom: " ++ entry.pattern)

/-- The rule that an entry declares. -/
def toRule (entry : RuleEntry) : Except Fault Rule := do
  if let some fault := entry.clash? then throw fault
  let pattern ← Rule.readPattern entry.pattern
  let rule ← Rule.ofPattern entry.title pattern (entry.edit pattern)
  return { rule with gate := entry.gate, hint := entry.hint }

end RuleEntry

structure Config where
  /-- No file farther up is looked for. -/
  root : Bool := false
  disableBuiltin : Bool := false
  /-- The environment variable that switches off the user's own file. -/
  homeSwitch : Option String := none
  rules : List RuleEntry := []
  deriving DecidableEq, Repr

namespace Config

/-- Every rule can be made; else the fault of the first that cannot. -/
def check (config : Config) : Except Fault Unit :=
  config.rules.forM fun entry => discard entry.toRule

end Config

/-- A configuration and the file that it was read from. -/
structure Layer where
  path : String
  config : Config
  deriving DecidableEq, Repr

structure SourcedEntry where
  entry : RuleEntry
  source : String
  deriving DecidableEq, Repr

namespace SourcedEntry

def toRule (sourced : SourcedEntry) : Except Fault Rule := do
  return { ← sourced.entry.toRule with source := some sourced.source }

end SourcedEntry

/-- The merged layers. -/
structure Stack where
  rules : List SourcedEntry := []
  disableBuiltin : Bool := false
  deriving DecidableEq, Repr

namespace Stack

/-- Lays configurations over each other: their rules in order, and the built-in rules only if none
of them disables these. -/
def ofLayers (layers : List Layer) : Stack where
  rules := layers.flatMap fun layer => layer.config.rules.map fun entry => ⟨entry, layer.path⟩
  disableBuiltin := layers.any fun layer => layer.config.disableBuiltin

/-- The built-in rules, unless disabled, followed by the declared ones. -/
def toRuleset (stack : Stack) : Except Fault Ruleset := do
  let builtin ← if stack.disableBuiltin then pure [] else Builtin.rules
  return ⟨builtin ++ (← stack.rules.mapM SourcedEntry.toRule)⟩

end Stack

end StablePath
