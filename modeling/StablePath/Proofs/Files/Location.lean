import StablePath.Files.Tree
import StablePath.Proofs.Files.Ancestors

/-!
Where paths lead.

A tree has no links, so the place that an absolute path leads to can be told from the path alone:
each name leads one level down, and two dots lead back up. What is in the tree only decides whether
there is anything at all. Two paths may lead to one place, but not if both do without two dots.
-/

namespace StablePath.Files

namespace Path

/-- Two dots, the name for the directory above. -/
def dots : List Char := ['.', '.']

def IsAbsolute (path : Path) : Prop := path.head? = some '/'

instance (path : Path) : Decidable path.IsAbsolute := inferInstanceAs (Decidable (_ = _))

/-- Follows a name without asking what is there. The root is above itself. -/
def follow (here : Location) (name : List Char) : Location :=
  if name = dots then here.dropLast else here ++ [name]

/-- The place of an absolute path: its names, where two dots cancel the name before them. -/
def place (path : Path) : Location := (names path).foldl follow []

lemma foldl_follow {segs : List (List Char)} (h : dots ∉ segs) (here : Location) :
    segs.foldl follow here = here ++ segs := by
  induction segs generalizing here with
  | nil => simp
  | cons name segs ih =>
    obtain ⟨hname, hsegs⟩ := not_or.mp (mt List.mem_cons.mpr h)
    rw [List.foldl_cons, ih hsegs, follow, if_neg (Ne.symm hname), List.append_assoc,
      List.singleton_append]

lemma place_of_not_mem {path : Path} (h : dots ∉ names path) : place path = names path :=
  foldl_follow h []

namespace IsAbsolute

variable {path : Path} (h : path.IsAbsolute)

include h

lemma parts_eq : parts path = ['/'] :: names path := by
  obtain ⟨rest, rfl⟩ := List.head?_eq_some_iff.mp h
  rfl

lemma join (name : Path) : (path.join name).IsAbsolute := by
  obtain ⟨rest, rfl⟩ := List.head?_eq_some_iff.mp h
  unfold Path.join
  split_ifs with hname
  · exact hname
  · rfl
  · rfl

lemma names_join {name : List Char} (hslash : '/' ∉ name) (hactive : isIdle name = false) :
    names (path.join name) = names path ++ [name] := by
  have hparts := parts_join path hslash hactive
  rw [(h.join name).parts_eq, h.parts_eq] at hparts
  exact (List.cons.inj hparts).2

lemma parent? {up : Path} (hup : Path.parent? path = some up) : up.IsAbsolute := by
  obtain ⟨rest, rfl⟩ := List.head?_eq_some_iff.mp h
  unfold Path.parent? at hup
  split at hup
  · cases hup
    rfl
  · cases hup

/-- The directories above an absolute path are absolute, and their names are its first ones. -/
lemma of_mem_ancestors {dir : Path} (hdir : dir ∈ path.ancestors) :
    dir.IsAbsolute ∧ names dir <+: names path := by
  obtain ⟨k, hk⟩ := List.mem_iff_getElem?.mp hdir
  induction k generalizing dir with
  | zero =>
    rw [ancestors_eq] at hk
    obtain rfl := Option.some.inj hk
    exact ⟨h, List.prefix_rfl⟩
  | succ k ih =>
    obtain ⟨below, hbelow⟩ : ∃ below, path.ancestors[k]? = some below := by
      have hlt := (List.getElem?_eq_some_iff.mp hk).1
      exact ⟨_, List.getElem?_eq_getElem (by omega)⟩
    obtain ⟨habsolute, hnames⟩ := ih (List.mem_of_getElem? hbelow) hbelow
    have hparent : Path.parent? below = some dir := getElem?_ancestors_succ path hbelow ▸ hk
    have hdirAbsolute := habsolute.parent? hparent
    refine ⟨hdirAbsolute, .trans ?_ hnames⟩
    obtain ⟨last, hparts⟩ := exists_parts_of_parent? hparent
    rw [habsolute.parts_eq, hdirAbsolute.parts_eq] at hparts
    exact ⟨[last], (List.cons.inj hparts).2.symm⟩

end IsAbsolute

end Path

namespace Tree

variable {root : Tree} {workingDir here there : Location}

lemma eq_of_step? {segment : List Char} (h : root.step? here segment = some there) :
    there = if Path.isIdle segment then here else Path.follow here segment := by
  unfold step? at h
  split at h
  · split_ifs at h with hidle hdots hchild
    · rw [if_pos hidle]
      exact (Option.some.inj h).symm
    · rw [if_neg hidle]
      exact (Option.some.inj h).symm.trans (if_pos hdots).symm
    · rw [if_neg hidle]
      exact (Option.some.inj h).symm.trans (if_neg hdots).symm
  · cases h

/-- Whatever is in the tree, following segments leads where their names say, if anywhere. -/
lemma eq_of_foldlM_step? {segs : List (List Char)}
    (h : segs.foldlM (step? root) here = some there) :
    there = (Path.active segs).foldl Path.follow here := by
  induction segs generalizing here with
  | nil => exact (Option.some.inj h).symm
  | cons segment segs ih =>
    rw [List.foldlM_cons] at h
    obtain ⟨next, hnext, hrest⟩ := Option.bind_eq_some_iff.mp h
    rw [ih hrest, eq_of_step? hnext]
    cases hidle : Path.isIdle segment <;> simp [Path.active, hidle]

/-- **An absolute path leads to its place**, if there is something. -/
lemma eq_place_of_resolve? {path : Path} (habsolute : path.IsAbsolute)
    (h : root.resolve? workingDir path = some there) : there = path.place := by
  obtain ⟨rest, rfl⟩ := List.head?_eq_some_iff.mp habsolute
  have hwalk : (Path.segments ('/' :: rest)).foldlM (step? root) [] = some there := h
  rw [eq_of_foldlM_step? hwalk]
  rfl

end Tree

end StablePath.Files
