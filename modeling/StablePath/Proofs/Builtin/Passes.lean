import StablePath.Proofs.Builtin.ContainerId
import StablePath.Proofs.Rule.HexRun
import StablePath.Proofs.Rule.Masking
import StablePath.Rule.Builtin

/-!
The built-in rules as sweeps.

Each built-in rule is read to its term, and its hint and its gate let every path through that the
term matches in. So a reduction is seven sweeps, one on the output of the other.
-/

namespace StablePath.Builtin

open Pattern Text

/-! ### Hints and gates -/

lemma occursIn_iff {needle text : List Char} : occursIn needle text = true ↔ needle <:+: text := by
  induction text with
  | nil => simp [occursIn]
  | cons c text ih => simp [occursIn, ih, List.infix_cons_iff]

/-- A path with a container id has a run that is long enough for the gate. -/
lemma hasHexRun_of_isInfix {w path : List Char} (hw : w <:+: path)
    (hchars : ∀ c ∈ w, isHexOrHyphen c = true) (hlen : w.length = 28) :
    hasHexRun containerIdLength path = true := by
  refine hasHexRun_iff.mpr ⟨w, hw, hchars, ?_⟩
  rw [hlen]
  exact Nat.le_refl _

/-! ### One rule -/

/-- Whether a file may be on sysfs. -/
def OnSysfs (filesystem : Option String) : Prop := filesystem = none ∨ filesystem = some sysfs

instance (filesystem : Option String) : Decidable (OnSysfs filesystem) :=
  inferInstanceAs (Decidable (_ ∨ _))

/-- What a maker of a rule makes. -/
structure Made (rule : Rule) (term : Term) (edit : Edit) (hint : Option String) (gate : Gate) :
    Prop where
  term_eq : rule.pattern.term = term
  edit_eq : rule.edit = edit
  hint_eq : rule.hint = hint
  gate_eq : rule.gate = gate

lemma exists_make (name : String) {text : String} {edit : Edit} {term : Term}
    (h : (Pattern.read? text).map Pattern.term = some term)
    (hgroup : edit.group < term.lastGroup + 1) :
    ∃ rule, Rule.make name text edit = .ok rule ∧ Made rule term edit none .always := by
  obtain ⟨pattern, hread, rfl⟩ := Option.map_eq_some_iff.mp h
  have hpattern : Rule.readPattern text = .ok pattern := by
    unfold Rule.readPattern
    rw [hread]
  have hmake : Rule.make name text edit = Rule.ofPattern name pattern edit := by
    unfold Rule.make
    rw [hpattern]
    rfl
  have hlt : edit.group < pattern.groupCount := hgroup
  rw [hmake, Rule.ofPattern, dif_pos hlt]
  exact ⟨_, rfl, ⟨rfl, rfl, rfl, rfl⟩⟩

namespace Made

variable {rule : Rule} {term : Term} {edit : Edit} (h : Made rule term edit none .always)

include h

lemma withHint (hint : String) :
    Made { rule with hint := some hint } term edit (some hint) .always :=
  ⟨h.term_eq, h.edit_eq, rfl, h.gate_eq⟩

lemma withGate (gate : Gate) : Made { rule with gate } term edit none gate :=
  ⟨h.term_eq, h.edit_eq, h.hint_eq, rfl⟩

lemma withBoth (hint : String) (gate : Gate) :
    Made { rule with hint := some hint, gate } term edit (some hint) gate :=
  ⟨h.term_eq, h.edit_eq, rfl, rfl⟩

end Made

/-- A rule reduces every path by a sweep, where it is on. -/
def Reduces (rule : Rule) (on : Option String → Prop) (H : Hit → Prop) (N : List Char → Prop)
    (r : UInt32 → List Char → List Char) : Prop :=
  ∀ sighting path, ∃ reduction, rule.reduce? sighting path = some reduction ∧
    (on sighting.filesystem → Sweeps H N (r sighting.pid) path reduction.path) ∧
    (¬ on sighting.filesystem → reduction.path = path)

/-- A match has its lead, and with it the hint that occurs in the lead, in the path. -/
lemma occursIn_of_around {hint : String} {leads tails : List (List Char)} {lo : Nat}
    {p : Char → Bool} (hhint : ∀ lead ∈ leads, occursIn hint.toList lead = true) {hit : Hit}
    (hshape : Around leads lo p tails hit) {path : List Char} (hsuffix : hit.text <:+ path) :
    occursIn hint.toList path = true := by
  have hin := occursIn_iff.mp (hhint _ hshape.lead)
  exact occursIn_iff.mpr (hin.trans (hit.lead_isPrefix.isInfix.trans hsuffix.isInfix))

/-- A rule whose matches begin with texts in which its hint occurs. -/
lemma reduces_of_around {rule : Rule} {term : Term} {edit : Edit} {hint : String} {gate : Gate}
    (hmade : Made rule term edit (some hint) gate) (on : Option String → Prop)
    (hgate : ∀ path filesystem, filesystem.all (gate.passes path ·) = true ↔ on filesystem)
    {leads tails : List (List Char)} {lo : Nat} {p : Char → Bool}
    (hfinds : term.Finds edit.group (Longest (Around leads lo p tails))
      (NoHit (Around leads lo p tails)))
    (hhint : ∀ lead ∈ leads, occursIn hint.toList lead = true) :
    Reduces rule on (Longest (Around leads lo p tails)) (NoHit (Around leads lo p tails))
      edit.replacement := by
  obtain ⟨rfl, rfl, hhint_eq, rfl⟩ := hmade
  intro sighting path
  have hcandidate : rule.isCandidate path sighting.filesystem = true ↔
      on sighting.filesystem ∧ occursIn hint.toList path = true := by
    unfold Rule.isCandidate
    rw [Bool.and_eq_true, hgate, hhint_eq, Option.all_some]
  by_cases hc : rule.isCandidate path sighting.filesystem = true
  · obtain ⟨reduction, hreduce, hsweeps⟩ := Rule.reduce?_sweeps hfinds hc
    exact ⟨reduction, hreduce, fun _ => hsweeps, fun hoff => absurd (hcandidate.mp hc).1 hoff⟩
  · refine ⟨_, Rule.reduce?_of_not_candidate (by simpa using hc), fun hon => ?_, fun _ => rfl⟩
    refine Sweeps.refl fun rest hrest hit htext hshape => hc (hcandidate.mpr ⟨hon, ?_⟩)
    exact occursIn_of_around hhint hshape (htext ▸ hrest)

lemma passes_always (path : List Char) (filesystem : Option String) :
    filesystem.all (Gate.always.passes path ·) = true ↔ True := by
  cases filesystem <;> simp [Gate.passes]

lemma passes_onSysfs (path : List Char) (filesystem : Option String) :
    filesystem.all (onSysfs.passes path ·) = true ↔ OnSysfs filesystem := by
  cases filesystem <;> simp [Gate.passes, onSysfs, OnSysfs]

/-! ### The seven rules -/

/-- A component of digits after a component with a name, with the slashes around. -/
def segment (name : String) : Hit → Prop :=
  Around [('/' :: name.toList) ++ ['/']] 1 Char.isDigit [['/']]

/-- The suffixes of control groups. -/
def suffixes : List (List Char) := [['.', 's', 'l', 'i', 'c', 'e'], ['.', 's', 'c', 'o', 'p', 'e']]

/-- What stands between a text and a suffix of a control group, in one component. -/
def cgroup (lead : String) : Hit → Prop := Around [lead.toList] 0 (· != '/') suffixes

/-- What the numbers of virtual block devices follow. -/
def deviceLeads : List (List Char) :=
  ["/sys/devices/virtual/block/dm-".toList, "/sys/devices/virtual/block/loop".toList]

/-- The number of a virtual block device. -/
def device : Hit → Prop := Around deviceLeads 1 Char.isDigit [[]]

def isTokenChar (c : Char) : Bool := c.isDigit || c == '.' || c == '_'

/-- The directory of a service account. -/
def tokenLead : List Char := "secrets/kubernetes.io/serviceaccount/".toList

/-- What follows the directory of a service account. -/
def token : Hit → Prop := Around [tokenLead] 1 isTokenChar [[]]

def pidOrStar (self : UInt32) : List Char → List Char := (Edit.pid 1).replacement self

def Always (_ : Option String) : Prop := True

def segmentTerm (name : String) : Term :=
  .concat (Term.literal (('/' :: name.toList) ++ ['/']) ++
    .group 1 (.times 1 none true (.oneOf digitSet)) :: Term.literal ['/'])

def slashlessSet : CharSet := ⟨[(0, 0x2E), (0x30, 0x10FFFF)]⟩

def cgroupTerm (lead : String) : Term :=
  .concat (Term.literal lead.toList ++ .group 1 (.times 0 none true (.oneOf slashlessSet)) ::
    [.oneOf (.single '.'), .alt (.concat (Term.literal ['s', 'l', 'i', 'c', 'e']))
      (.concat (Term.literal ['s', 'c', 'o', 'p', 'e']))])

def deviceTerm : Term :=
  .concat ((Term.literal "/sys/devices/virtual/block/".toList ++
      [.alt (.concat (Term.literal ['d', 'm', '-'])) (.concat (Term.literal ['l', 'o', 'o', 'p']))]) ++
    .group 1 (.times 1 none true (.oneOf digitSet)) :: [])

def tokenSet : CharSet := ⟨[(0x2E, 0x2E), (0x30, 0x39), (0x5F, 0x5F)]⟩

def tokenTerm : Term :=
  .concat (Term.literal "secrets/kubernetes.io/serviceaccount/".toList ++
    .group 1 (.times 1 none true (.oneOf tokenSet)) :: [])

lemma contains_slashlessSet (c : Char) : slashlessSet.contains c.toNat = (c != '/') := by
  have hlast : c.toNat ≤ 0x10FFFF := by
    have := c.valid
    unfold UInt32.isValidChar Nat.isValidChar at this
    show c.val.toNat ≤ _
    omega
  have heq : c = '/' ↔ c.toNat = 0x2F := ⟨fun h => h ▸ rfl, fun h => Char.toNat_inj.mp h⟩
  rw [Bool.eq_iff_iff]
  simp only [slashlessSet, CharSet.contains, List.any_cons, List.any_nil, Bool.or_eq_true,
    Bool.and_eq_true, decide_eq_true_eq, Bool.false_eq_true, or_false, bne_iff_ne, ne_eq, heq]
  omega

lemma contains_tokenSet (c : Char) : tokenSet.contains c.toNat = isTokenChar c := by
  have hdot : c = '.' ↔ c.toNat = 0x2E := ⟨fun h => h ▸ rfl, fun h => Char.toNat_inj.mp h⟩
  have hline : c = '_' ↔ c.toNat = 0x5F := ⟨fun h => h ▸ rfl, fun h => Char.toNat_inj.mp h⟩
  rw [Bool.eq_iff_iff]
  simp only [tokenSet, CharSet.contains, List.any_cons, List.any_nil, Bool.or_eq_true,
    Bool.and_eq_true, decide_eq_true_eq, Bool.false_eq_true, or_false, isTokenChar, isDigit_iff,
    beq_iff_eq, hdot, hline]
  omega

lemma finds_segment (name : String) :
    (segmentTerm name).Finds 1 (Longest (segment name)) (NoHit (segment name)) :=
  Term.finds_concat (Term.words?_literal _) (Term.words?_literal _) contains_digitSet (by simp)

lemma finds_cgroup (lead : String) (hne : lead.toList ≠ []) :
    (cgroupTerm lead).Finds 1 (Longest (cgroup lead)) (NoHit (cgroup lead)) :=
  Term.finds_concat (Term.words?_literal _) rfl contains_slashlessSet (by simpa using hne.symm)

lemma finds_device : deviceTerm.Finds 1 (Longest device) (NoHit device) :=
  Term.finds_concat rfl rfl contains_digitSet (by decide)

lemma finds_token : tokenTerm.Finds 1 (Longest token) (NoHit token) :=
  Term.finds_concat (Term.words?_literal _) rfl contains_tokenSet (by decide)

/-- A sweep of the longest matches of a shape. -/
def Pass (shape : Hit → Prop) (r : List Char → List Char) (text out : List Char) : Prop :=
  Sweeps (Longest shape) (NoHit shape) r text out

lemma exists_processPid : ∃ rule, processPid = .ok rule ∧
    Made rule (segmentTerm "proc") (.pid 1) (some "proc") .always := by
  have hread : (Pattern.read? "/proc/([0-9]+)/").map Pattern.term = some (segmentTerm "proc") := by
    decide +kernel
  have hgroup : (Edit.pid 1).group < (segmentTerm "proc").lastGroup + 1 := by decide
  obtain ⟨rule, hrule, hmade⟩ := exists_make "process pid" hread hgroup
  exact ⟨{ rule with hint := some "proc" }, by rw [processPid, hrule]; rfl, hmade.withHint "proc"⟩

lemma exists_threadId : ∃ rule, threadId = .ok rule ∧
    Made rule (segmentTerm "task") (wildcard 1) (some "task") .always := by
  have hread : (Pattern.read? "/task/([0-9]+)/").map Pattern.term = some (segmentTerm "task") := by
    decide +kernel
  have hgroup : (wildcard 1).group < (segmentTerm "task").lastGroup + 1 := by decide
  obtain ⟨rule, hrule, hmade⟩ := exists_make "thread id" hread hgroup
  exact ⟨{ rule with hint := some "task" }, by rw [threadId, hrule]; rfl, hmade.withHint "task"⟩

lemma exists_kubernetesPod : ∃ rule, kubernetesPod = .ok rule ∧
    Made rule (cgroupTerm "kubepods-") (wildcard 1) (some "kubepods") onSysfs := by
  have hread : (Pattern.read? "kubepods-([^/]*)\\.(?:slice|scope)").map Pattern.term =
      some (cgroupTerm "kubepods-") := by decide +kernel
  have hgroup : (wildcard 1).group < (cgroupTerm "kubepods-").lastGroup + 1 := by decide
  obtain ⟨rule, hrule, hmade⟩ := exists_make "kubernetes pod cgroup" hread hgroup
  exact ⟨{ rule with hint := some "kubepods", gate := onSysfs },
    by rw [kubernetesPod, hrule]; rfl, hmade.withBoth "kubepods" onSysfs⟩

lemma exists_containerd : ∃ rule, containerd = .ok rule ∧
    Made rule (cgroupTerm "cri-containerd-") (wildcard 1) (some "cri-containerd") onSysfs := by
  have hread : (Pattern.read? "cri-containerd-([^/]*)\\.(?:slice|scope)").map Pattern.term =
      some (cgroupTerm "cri-containerd-") := by decide +kernel
  have hgroup : (wildcard 1).group < (cgroupTerm "cri-containerd-").lastGroup + 1 := by decide
  obtain ⟨rule, hrule, hmade⟩ := exists_make "containerd cgroup" hread hgroup
  exact ⟨{ rule with hint := some "cri-containerd", gate := onSysfs },
    by rw [containerd, hrule]; rfl, hmade.withBoth "cri-containerd" onSysfs⟩

lemma exists_containerId : ∃ rule, containerId = .ok rule ∧
    Made rule containerIdTerm (wildcard 0) none (.hexRun containerIdLength) := by
  have hread : (Pattern.read? containerIdPattern).map Pattern.term = some containerIdTerm := by
    decide +kernel
  have hgroup : (wildcard 0).group < containerIdTerm.lastGroup + 1 := by decide
  obtain ⟨rule, hrule, hmade⟩ := exists_make "container id" hread hgroup
  exact ⟨{ rule with gate := .hexRun containerIdLength }, by rw [containerId, hrule]; rfl,
    hmade.withGate _⟩

lemma exists_virtualBlockDevice : ∃ rule, virtualBlockDevice = .ok rule ∧
    Made rule deviceTerm (wildcard 1) (some "devices") onSysfs := by
  have hread : (Pattern.read? "/sys/devices/virtual/block/(?:dm-|loop)([0-9]+)").map
      Pattern.term = some deviceTerm := by decide +kernel
  have hgroup : (wildcard 1).group < deviceTerm.lastGroup + 1 := by decide
  obtain ⟨rule, hrule, hmade⟩ := exists_make "virtual block device" hread hgroup
  exact ⟨{ rule with hint := some "devices", gate := onSysfs },
    by rw [virtualBlockDevice, hrule]; rfl, hmade.withBoth "devices" onSysfs⟩

lemma exists_serviceAccountToken : ∃ rule, serviceAccountToken = .ok rule ∧
    Made rule tokenTerm (wildcard 1) (some "serviceaccount") .always := by
  have hread : (Pattern.read? "secrets/kubernetes\\.io/serviceaccount/([0-9._]+)").map
      Pattern.term = some tokenTerm := by decide +kernel
  have hgroup : (wildcard 1).group < tokenTerm.lastGroup + 1 := by decide
  obtain ⟨rule, hrule, hmade⟩ := exists_make "service account token" hread hgroup
  exact ⟨{ rule with hint := some "serviceaccount" }, by rw [serviceAccountToken, hrule]; rfl,
    hmade.withHint "serviceaccount"⟩

/-- A path in which an id is found lets the rule for container ids through. -/
lemma hasHexRun_of_isId {hit : Hit} (h : IsId hit) {path : List Char}
    (hsuffix : hit.text <:+ path) : hasHexRun containerIdLength path = true := by
  obtain ⟨w, hcore, hin⟩ := h.isContainerId.exists_core hsuffix
  exact hasHexRun_of_isInfix hin hcore.chars hcore.length_eq

lemma reduces_containerId {rule : Rule}
    (hmade : Made rule containerIdTerm (wildcard 0) none (.hexRun containerIdLength)) :
    Reduces rule Always IsId NoId fun _ => star := by
  obtain ⟨hterm, hedit, hhint, hgate⟩ := hmade
  intro sighting path
  cases hc : rule.isCandidate path sighting.filesystem with
  | true =>
    have hfinds := finds_id
    rw [← hterm, show 0 = (wildcard 0).group from rfl, ← hedit] at hfinds
    obtain ⟨reduction, hreduce, hsweeps⟩ := Rule.reduce?_sweeps hfinds hc
    rw [hedit] at hsweeps
    exact ⟨reduction, hreduce, fun _ => hsweeps, fun hoff => absurd trivial hoff⟩
  | false =>
    refine ⟨_, Rule.reduce?_of_not_candidate hc, fun _ => ?_, fun _ => rfl⟩
    refine Sweeps.refl fun rest hrest => ?_
    -- without a run that is long enough there is no id
    rcases finds_id none 0 rest with ⟨-, hnone⟩ | ⟨hit, -, htext, hid, -⟩
    · exact hnone
    · have hrun := hasHexRun_of_isId hid (htext ▸ hrest)
      unfold Rule.isCandidate at hc
      rw [hhint, hgate] at hc
      cases sighting.filesystem <;> simp [Gate.passes, hrun] at hc

/-! ### The ruleset -/

/-- A pass that only takes place on sysfs, or where the filesystem is not known. -/
def SysfsPass (filesystem : Option String) (shape : Hit → Prop) (text out : List Char) : Prop :=
  (OnSysfs filesystem → Pass shape star text out) ∧ (¬ OnSysfs filesystem → out = text)

/-- The seven sweeps of a reduction, each over what the one before it left. -/
inductive Passes (sighting : Sighting) : (path out : List Char) → Prop
  | mk {path a b c d e f out : List Char}
      (pid : Pass (segment "proc") (pidOrStar sighting.pid) path a)
      (thread : Pass (segment "task") star a b)
      (pod : SysfsPass sighting.filesystem (cgroup "kubepods-") b c)
      (containerd : SysfsPass sighting.filesystem (cgroup "cri-containerd-") c d)
      (id : Sweeps IsId NoId star d e)
      (device : SysfsPass sighting.filesystem device e f)
      (token : Pass token star f out) : Passes sighting path out

/-- The seven rules, one after the other, and those of them that do not ask for a filesystem. -/
inductive Seven : (all anywhere : List Rule) → Prop
  | mk {r₁ r₂ r₃ r₄ r₅ r₆ r₇ : Rule}
      (pid : Made r₁ (segmentTerm "proc") (.pid 1) (some "proc") .always)
      (thread : Made r₂ (segmentTerm "task") (wildcard 1) (some "task") .always)
      (pod : Made r₃ (cgroupTerm "kubepods-") (wildcard 1) (some "kubepods") onSysfs)
      (containerd :
        Made r₄ (cgroupTerm "cri-containerd-") (wildcard 1) (some "cri-containerd") onSysfs)
      (id : Made r₅ containerIdTerm (wildcard 0) none (.hexRun containerIdLength))
      (device : Made r₆ deviceTerm (wildcard 1) (some "devices") onSysfs)
      (token : Made r₇ tokenTerm (wildcard 1) (some "serviceaccount") .always) :
      Seven [r₁, r₂, r₃, r₄, r₅, r₆, r₇] [r₁, r₂, r₅, r₇]

lemma exists_seven : ∃ rs four, rules = .ok rs ∧
    [processPid, threadId, containerId, serviceAccountToken].mapM id = .ok four ∧
    Seven rs four := by
  obtain ⟨r₁, h₁, pid⟩ := exists_processPid
  obtain ⟨r₂, h₂, thread⟩ := exists_threadId
  obtain ⟨r₃, h₃, pod⟩ := exists_kubernetesPod
  obtain ⟨r₄, h₄, containerd⟩ := exists_containerd
  obtain ⟨r₅, h₅, id'⟩ := exists_containerId
  obtain ⟨r₆, h₆, device⟩ := exists_virtualBlockDevice
  obtain ⟨r₇, h₇, token⟩ := exists_serviceAccountToken
  refine ⟨_, _, ?_, ?_, .mk pid thread pod containerd id' device token⟩
  · unfold rules
    rw [h₁, h₂, h₃, h₄, h₅, h₆, h₇]
    rfl
  · rw [h₁, h₂, h₅, h₇]
    rfl

/-- **The built-in rules reduce every path**, by seven sweeps. -/
theorem exists_passes : ∃ rules, ruleset = .ok rules ∧ ∀ sighting path,
    ∃ reduction, rules.reduce? sighting path = some reduction ∧
      Passes sighting path reduction.path := by
  obtain ⟨rs, _, hrules, -, hseven⟩ := exists_seven
  refine ⟨⟨rs⟩, by rw [ruleset, hrules]; rfl, fun sighting path => ?_⟩
  cases hseven with
  | @mk r₁ r₂ r₃ r₄ r₅ r₆ r₇ pid thread pod containerd id' device token =>
  obtain ⟨a, ha, pid, -⟩ := reduces_of_around pid Always passes_always
    (finds_segment "proc") (by decide +kernel) sighting path
  obtain ⟨b, hb, thread, -⟩ := reduces_of_around thread Always passes_always
    (finds_segment "task") (by decide +kernel) sighting a.path
  obtain ⟨c, hc, pod⟩ := reduces_of_around pod OnSysfs passes_onSysfs
    (finds_cgroup "kubepods-" (by decide)) (by decide +kernel) sighting b.path
  obtain ⟨d, hd, containerd⟩ := reduces_of_around containerd OnSysfs passes_onSysfs
    (finds_cgroup "cri-containerd-" (by decide)) (by decide +kernel) sighting c.path
  obtain ⟨e, he, id', -⟩ := reduces_containerId id' sighting d.path
  obtain ⟨f, hf, device⟩ := reduces_of_around device OnSysfs passes_onSysfs
    finds_device (by decide +kernel) sighting e.path
  obtain ⟨out, hout, token, -⟩ := reduces_of_around token Always passes_always
    finds_token (by decide +kernel) sighting f.path
  have hreduce : (⟨[r₁, r₂, r₃, r₄, r₅, r₆, r₇]⟩ : Ruleset).reduce? sighting path = some ⟨out.path,
      ((((((false || a.edited) || b.edited) || c.edited) || d.edited) || e.edited) || f.edited) ||
        out.edited⟩ := by
    simp only [Ruleset.reduce?, List.foldlM_cons, List.foldlM_nil, ha, hb, hc, hd, he, hf, hout,
      Option.pure_def, Option.bind_eq_bind, Option.bind_some]
  exact ⟨_, hreduce, .mk (pid trivial) (thread trivial) pod containerd (id' trivial) device
    (token trivial)⟩

end StablePath.Builtin
