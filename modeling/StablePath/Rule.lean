import StablePath.Fault
import StablePath.Pattern
import StablePath.Rule.Edit
import StablePath.Rule.Gate

/-!
Rules: where to look in a path, when to look, and what to write.
-/

namespace StablePath

structure Rule where
  name : String
  pattern : Pattern
  /-- A text that a path must contain for the pattern to be tried. -/
  hint : Option String := none
  gate : Gate := .always
  edit : Edit
  /-- The file that the rule was read from, if it is not built in. -/
  source : Option String := none
  group_lt : edit.group < pattern.groupCount

namespace Rule

/-- A rule with no hint and no gate around a pattern that has the group to be edited. -/
def ofPattern (name : String) (pattern : Pattern) (edit : Edit) : Except Fault Rule :=
  if h : edit.group < pattern.groupCount then .ok { name, pattern, edit, group_lt := h }
  else .error (.noSuchGroup pattern.text edit.group)

def readPattern (text : String) : Except Fault Pattern :=
  match Pattern.read? text with
  | some pattern => .ok pattern
  | none => .error (.badPattern text)

/-- A rule with no hint and no gate. -/
def make (name pattern : String) (edit : Edit) : Except Fault Rule := do
  ofPattern name (← readPattern pattern) edit

/-- Whether a rule is worth trying. Its gate counts only if the filesystem is known. -/
def isCandidate (rule : Rule) (path : List Char) (filesystem : Option String) : Bool :=
  filesystem.all (rule.gate.passes path ·) &&
    rule.hint.all fun hint => Text.occursIn hint.toList path

/-- The groups of every match of the rule's pattern, whatever its hint and gate say. -/
def matchesIn (rule : Rule) (path : List Char) : List Pattern.Groups := rule.pattern.matchesIn path

/-- Edits matches from the last to the first, so that an edit moves none that is still to come. -/
def editAll? (rule : Rule) (found : List Pattern.Groups) (draft : Draft) : Option Draft :=
  found.foldrM (fun groups draft => rule.edit.perform? { draft with groups }) draft

end Rule

end StablePath
