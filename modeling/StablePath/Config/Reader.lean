import StablePath.Config.Basic
import StablePath.Toml.Reader

/-!
Reading configurations.

Keys that are not known do not count. A rule may be a table, or an array of its values in a fixed
order of which only the last may be left out.
-/

namespace StablePath

open Toml (Value Entries)

namespace Toml.Value

def string? : Value → Option String
  | string s => some s
  | _ => none

def boolean? : Value → Option Bool
  | boolean b => some b
  | _ => none

/-- A whole number of 64 bits without a sign. -/
def size? : Value → Option Nat
  | integer n => if 0 ≤ n ∧ n < UInt64.size then some n.toNat else none
  | _ => none

/-- The items of an array, whether written in brackets or opened by headers. -/
def items? : Value → Option (List Value)
  | array items => some items
  | tables elements => some (elements.map (table .header))
  | _ => none

end Toml.Value

/-- The value at a key, if there is one. It must be of the kind that is asked for. -/
def Toml.Entries.optional? {α : Type} (read : Value → Option α) (key : String)
    (entries : Entries) : Option (Option α) :=
  match entries.get? key with
  | none => some none
  | some value => (read value).map some

namespace RuleEntry

def ofTable? (entries : Entries) : Option RuleEntry := do
  let pattern ← entries.optional? Value.string? "pattern"
  return {
    name := ← entries.optional? Value.string? "name"
    pattern := ← pattern
    hint := ← entries.optional? Value.string? "hint"
    filesystem := ← entries.optional? Value.string? "filesystem"
    minHexRun := ← entries.optional? Value.size? "min_hex_run"
    group := ← entries.optional? Value.size? "group"
    replacement := ← entries.optional? Value.string? "replacement"
    pidAware := (← entries.optional? Value.boolean? "pid_aware").getD false }

/-- An entry written as an array. All its options but the last must be there. -/
def ofArray? : List Value → Option RuleEntry
  | name :: pattern :: hint :: filesystem :: minHexRun :: group :: replacement :: others => do
    return {
      name := some (← name.string?)
      pattern := ← pattern.string?
      hint := some (← hint.string?)
      filesystem := some (← filesystem.string?)
      minHexRun := some (← minHexRun.size?)
      group := some (← group.size?)
      replacement := some (← replacement.string?)
      pidAware := ← match others with
        | [] => some false
        | pidAware :: _ => pidAware.boolean? }
  | _ => none

def ofValue? : Value → Option RuleEntry
  | .table _ entries => ofTable? entries
  | value => value.items? >>= ofArray?

end RuleEntry

namespace Config

/-- The configuration that a document describes. -/
def ofTable? (entries : Entries) : Option Config := do
  let rules ← entries.optional? Value.items? "rules"
  return {
    root := (← entries.optional? Value.boolean? "root").getD false
    disableBuiltin := (← entries.optional? Value.boolean? "disable-builtin-rules").getD false
    homeSwitch := ← entries.optional? Value.string? "root-config-lookup-disable-env-var"
    rules := ← (rules.getD []).mapM RuleEntry.ofValue? }

/-- The configuration that a text describes, apart from faults of its rules. -/
def ofText? (text : String) : Option Config := Toml.read? text.toList >>= ofTable?

/-- Reads the text of a configuration file and checks its rules. -/
def read (path text : String) : Except Fault Config :=
  match ofText? text with
  | none => .error (.fileMalformed path)
  | some config => do
    config.check
    return config

end Config

end StablePath
