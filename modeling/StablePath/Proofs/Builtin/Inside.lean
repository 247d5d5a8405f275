import StablePath.Proofs.Builtin.Untouched

/-!
Sweeps inside components.

No control group and no container id reaches over a slash. So the three sweeps after the first two
work on each component by itself, and what they make of it is determined.
-/

namespace StablePath.Builtin

open Pattern

/-! ### Component by component -/

section

variable {α β γ : Type} {R : α → β → Prop} {S : β → γ → Prop}

lemma forall₂_comp {xs : List α} {ys : List β} {zs : List γ} (h : List.Forall₂ R xs ys)
    (h' : List.Forall₂ S ys zs) : List.Forall₂ (fun x z => ∃ y, R x y ∧ S y z) xs zs := by
  induction h generalizing zs with
  | nil =>
    cases h'
    exact .nil
  | cons hxy _ ih =>
    cases h' with
    | cons hyz h' => exact .cons ⟨_, hxy, hyz⟩ (ih h')

lemma eq_of_forall₂ {xs xs' : List α} {ys ys' : List β}
    (hlike : List.Forall₂ (fun x x' => ∀ y y', R x y → R x' y' → y = y') xs xs')
    (h : List.Forall₂ R xs ys) (h' : List.Forall₂ R xs' ys') : ys = ys' := by
  induction hlike generalizing ys ys' with
  | nil =>
    cases h
    cases h'
    rfl
  | cons hone _ ih =>
    cases h with
    | cons hy h =>
    cases h' with
    | cons hy' h' => rw [hone _ _ hy hy', ih h h']

end

/-! ### The three sweeps -/

/-- What the rules for control groups begin with. -/
def groupLeads : List String := ["kubepods-", "cri-containerd-"]

lemma groupLead_ne_nil {lead : String} (h : lead ∈ groupLeads) : lead.toList ≠ [] := by
  revert lead
  decide

lemma exact_cgroup (lead : String) :
    Exact (Longest (cgroup lead)) (NoHit (cgroup lead)) := by
  refine exact_longest (fun u hu v hv _ => ?_) (by decide)
  rw [List.mem_singleton.mp hu, List.mem_singleton.mp hv]

lemma delimits_cgroup {lead : String} (h : lead ∈ groupLeads) :
    Delimits '/' (Longest (cgroup lead)) (NoHit (cgroup lead)) := by
  refine delimits_longest ?_ (by decide) (by decide)
  revert lead
  decide

lemma SysfsPass.unique {filesystem : Option String} {leads tails : List (List Char)} {lo : Nat}
    {p : Char → Bool}
    (hexact : Exact (Longest (Around leads lo p tails)) (NoHit (Around leads lo p tails)))
    {text out out' : List Char} (h : SysfsPass filesystem (Around leads lo p tails) text out)
    (h' : SysfsPass filesystem (Around leads lo p tails) text out') : out = out' := by
  by_cases hon : OnSysfs filesystem
  · exact (h.1 hon).unique hexact (h'.1 hon)
  · rw [h.2 hon, h'.2 hon]

/-- What the sweeps over control groups and container ids make of a component. -/
inductive Inside (filesystem : Option String) : (c e : List Char) → Prop
  | mk {c c₁ c₂ e : List Char} (pod : SysfsPass filesystem (cgroup "kubepods-") c c₁)
      (containerd : SysfsPass filesystem (cgroup "cri-containerd-") c₁ c₂)
      (id : Sweeps IsId NoId star c₂ e) : Inside filesystem c e

lemma Inside.unique {filesystem : Option String} {c e e' : List Char}
    (h : Inside filesystem c e) (h' : Inside filesystem c e') : e = e' := by
  obtain ⟨pod, containerd, id⟩ := h
  obtain ⟨pod', containerd', id'⟩ := h'
  obtain rfl := pod.unique (exact_cgroup _) pod'
  obtain rfl := containerd.unique (exact_cgroup _) containerd'
  exact id.unique exact_id id'

lemma components_of_sysfsPass {filesystem : Option String} {lead : String}
    (hlead : lead ∈ groupLeads) {text out : List Char}
    (h : SysfsPass filesystem (cgroup lead) text out) :
    List.Forall₂ (SysfsPass filesystem (cgroup lead)) (components text) (components out) := by
  by_cases hon : OnSysfs filesystem
  · refine (components_of_sweeps (delimits_cgroup hlead) (h.1 hon)).imp fun c d hsweep => ?_
    exact ⟨fun _ => hsweep, fun hoff => absurd hon hoff⟩
  · rw [h.2 hon]
    exact List.forall₂_same.mpr fun c _ => ⟨fun hon' => absurd hon' hon, fun _ => rfl⟩

/-- **A reduction, component by component.** The first two sweeps write over numbers, the next three
work inside components, and the last two go over the whole path. -/
theorem inside_of_passes {sighting : Sighting} {path out : List Char} (h : Passes sighting path out) :
    ∃ e f, List.Forall₂ (Inside sighting.filesystem) (written sighting.pid (components path))
        (components e) ∧
      SysfsPass sighting.filesystem device e f ∧ Pass token star f out := by
  cases h with
  | @mk a b c d e f _ pid thread pod containerd id' device token =>
  refine ⟨e, f, ?_, device, token⟩
  rw [written_components pid thread]
  have hcgroups := forall₂_comp (components_of_sysfsPass (by decide) pod)
    (components_of_sysfsPass (by decide) containerd)
  refine (forall₂_comp hcgroups (components_of_sweeps (delimits_id (by decide)) id')).imp ?_
  rintro c e ⟨c₂, ⟨c₁, hpod, hcontainerd⟩, hid⟩
  exact .mk hpod hcontainerd hid

lemma exact_device : Exact (Longest device) (NoHit device) :=
  exact_longest (by decide) (by decide)

lemma exact_token : Exact (Longest token) (NoHit token) :=
  exact_longest (by decide) (by decide)

/-- Two paths have one outcome if the sweeps inside components come to the same. -/
lemma eq_of_inside {sighting : Sighting} {path path' out out' : List Char}
    (h : Passes sighting path out) (h' : Passes sighting path' out')
    (hlike : List.Forall₂ (fun c c' => ∀ e e', Inside sighting.filesystem c e →
      Inside sighting.filesystem c' e' → e = e') (written sighting.pid (components path))
        (written sighting.pid (components path'))) : out = out' := by
  obtain ⟨e, f, hinside, hdevice, htoken⟩ := inside_of_passes h
  obtain ⟨e', f', hinside', hdevice', htoken'⟩ := inside_of_passes h'
  obtain rfl := components_injective (eq_of_forall₂ hlike hinside hinside')
  obtain rfl := hdevice.unique exact_device hdevice'
  exact htoken.unique exact_token htoken'

end StablePath.Builtin
