/-!
What can be wrong with a configuration.
-/

namespace StablePath

inductive Fault
  | fileMissing (path : String)
  | fileUnreadable (path : String)
  | fileMalformed (path : String)
  | badPattern (pattern : String)
  | noSuchGroup (pattern : String) (group : Nat)
  | exclusive (first second : String)
  deriving DecidableEq, Repr

namespace Fault

def message : Fault → String
  | fileMissing path => "Config file not found: " ++ path
  | fileUnreadable path => "Failed to read config file: " ++ path
  | fileMalformed path => "Failed to parse config file: " ++ path
  | badPattern pattern => "Invalid regex pattern in rule: " ++ pattern
  | noSuchGroup pattern group =>
    "Capture group " ++ toString group ++ " does not exist in pattern: " ++ pattern
  | exclusive first second => "Mutually exclusive options: " ++ first ++ " and " ++ second

end Fault

end StablePath
