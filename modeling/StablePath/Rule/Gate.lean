import StablePath.Text.Basic

/-!
Gates: cheap conditions that are checked before the pattern of a rule.
-/

namespace StablePath

inductive Gate
  | always
  /-- The file is on a filesystem of this kind. -/
  | filesystem (kind : String)
  /-- The path has a run of at least so many hexadecimal digits and hyphens. -/
  | hexRun (length : Nat)
  deriving DecidableEq, Repr

/-- The kind of filesystem that shows devices and control groups. -/
def sysfs : String := "sysfs"

/-- Hexadecimal digits and hyphens, which container ids are made of. -/
def isHexOrHyphen (c : Char) : Bool :=
  c.isDigit || ('a' ≤ c && c ≤ 'f') || ('A' ≤ c && c ≤ 'F') || c == '-'

/-- Whether a run reaches a length, after `count` characters of it. -/
def reachesHexRun (length : Nat) : (count : Nat) → List Char → Bool
  | _, [] => false
  | count, c :: rest =>
    if isHexOrHyphen c then length ≤ count + 1 || reachesHexRun length (count + 1) rest
    else reachesHexRun length 0 rest

/-- Whether a path has a run of hexadecimal digits and hyphens of at least a length, and of at
least one. -/
def hasHexRun (length : Nat) (path : List Char) : Bool := reachesHexRun length 0 path

namespace Gate

/-- Whether a gate lets a path through that was seen on a filesystem of some kind. -/
def passes (path : List Char) (kind : String) : Gate → Bool
  | always => true
  | filesystem wanted => kind == wanted
  | hexRun length => hasHexRun length path

def describe : Gate → String
  | always => "always"
  | filesystem kind => "filesystem == " ++ kind
  | hexRun length => "hex run >= " ++ toString length

end Gate

end StablePath
