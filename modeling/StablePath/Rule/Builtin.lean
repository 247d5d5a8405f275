import StablePath.Ruleset

/-!
The built-in rules.
-/

namespace StablePath.Builtin

/-- The shortest container id: digits in groups of 8, 4, 4, 4 and 4. -/
def containerIdLength : Nat := 28

/-- The formats of container ids, tried from left to right: 64 digits; 32 digits, a hyphen and a
number; digits in groups; any other run that is long enough. -/
def containerIdPattern : String :=
  "[0-9a-fA-F]\x7b64\x7d" ++
  "|[0-9a-fA-F]\x7b32\x7d-[0-9]+" ++
  "|[0-9a-fA-F]\x7b8\x7d(?:-[0-9a-fA-F]\x7b4\x7d)\x7b4\x7d" ++
  "|[0-9a-fA-F]\x7b28,\x7d"

def wildcard (group : Nat) : Edit := .literal group "*"

def onSysfs : Gate := .filesystem sysfs

def processPid : Except Fault Rule := do
  return { ← Rule.make "process pid" "/proc/([0-9]+)/" (.pid 1) with hint := some "proc" }

def threadId : Except Fault Rule := do
  return { ← Rule.make "thread id" "/task/([0-9]+)/" (wildcard 1) with hint := some "task" }

def kubernetesPod : Except Fault Rule := do
  let rule ← Rule.make "kubernetes pod cgroup" "kubepods-([^/]*)\\.(?:slice|scope)" (wildcard 1)
  return { rule with hint := some "kubepods", gate := onSysfs }

def containerd : Except Fault Rule := do
  let rule ← Rule.make "containerd cgroup" "cri-containerd-([^/]*)\\.(?:slice|scope)" (wildcard 1)
  return { rule with hint := some "cri-containerd", gate := onSysfs }

def containerId : Except Fault Rule := do
  let rule ← Rule.make "container id" containerIdPattern (wildcard 0)
  return { rule with gate := .hexRun containerIdLength }

def virtualBlockDevice : Except Fault Rule := do
  let rule ← Rule.make "virtual block device"
    "/sys/devices/virtual/block/(?:dm-|loop)([0-9]+)" (wildcard 1)
  return { rule with hint := some "devices", gate := onSysfs }

def serviceAccountToken : Except Fault Rule := do
  let rule ← Rule.make "service account token"
    "secrets/kubernetes\\.io/serviceaccount/([0-9._]+)" (wildcard 1)
  return { rule with hint := some "serviceaccount" }

/-- The built-in rules in order. Each sees what the ones before it left. -/
def rules : Except Fault (List Rule) :=
  [processPid, threadId, kubernetesPod, containerd, containerId, virtualBlockDevice,
    serviceAccountToken].mapM id

def ruleset : Except Fault Ruleset := rules.map Ruleset.mk

end StablePath.Builtin
