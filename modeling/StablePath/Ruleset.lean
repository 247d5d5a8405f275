import StablePath.Rule

/-!
Rulesets: rules in the order in which they reduce a path.
-/

namespace StablePath

/-- What has become of a path, and whether any rule edited it: a rule that wrote what was there
before counts too. -/
structure Reduction where
  path : List Char
  edited : Bool
  deriving DecidableEq, Repr

namespace Rule

/-- Reduces a path by one rule. There is no answer if an edit is not possible. -/
def reduce? (rule : Rule) (sighting : Sighting) (path : List Char) : Option Reduction :=
  if rule.isCandidate path sighting.filesystem then
    match rule.matchesIn path with
    | [] => some ⟨path, false⟩
    | found => (rule.editAll? found ⟨path, [], sighting⟩).map fun draft => ⟨draft.path, true⟩
  else some ⟨path, false⟩

end Rule

structure Ruleset where
  rules : List Rule

namespace Ruleset

/-- Reduces a path by each rule on the output of the one before. -/
def reduce? (ruleset : Ruleset) (sighting : Sighting) (path : List Char) : Option Reduction :=
  ruleset.rules.foldlM (fun reduction rule => do
    let next ← rule.reduce? sighting reduction.path
    return ⟨next.path, reduction.edited || next.edited⟩) ⟨path, false⟩

end Ruleset

end StablePath
