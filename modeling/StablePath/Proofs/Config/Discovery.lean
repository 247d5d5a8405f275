import StablePath.Config.Cascade
import StablePath.Proofs.Config.Layers
import StablePath.Proofs.Files.Ancestors

/-!
Discovering configurations.

What is found is said here without the program: which files are read, which fault counts, and when
the file in the home directory joins the others. The walk up reads one file after the other, so each
fact about it is one about the nearest file and the walk behind it.
-/

namespace StablePath

section

variable {ε α β : Type} {x : Except ε α} {f : α → β}

lemma map_eq_ok {b : β} : x.map f = .ok b ↔ ∃ a, x = .ok a ∧ f a = b := by
  cases x <;> simp [Except.map]

lemma map_eq_error {fault : ε} : x.map f = .error fault ↔ x = .error fault := by
  cases x <;> simp [Except.map]

end

lemma exists_mem_of_forall₂ {α β : Type} {r : α → β → Prop} {xs : List α} {ys : List β}
    (h : List.Forall₂ r xs ys) : ∀ y ∈ ys, ∃ x ∈ xs, r x y := by
  induction h with
  | nil => simp
  | @cons x _ xs _ hxy _ ih =>
    refine List.forall_mem_cons.mpr ⟨⟨x, List.mem_cons_self, hxy⟩, fun y hy => ?_⟩
    obtain ⟨x', hx', hxy'⟩ := ih y hy
    exact ⟨x', List.mem_cons_of_mem x hx', hxy'⟩

namespace Layer

open Files (Path)

variable {around : Surroundings} {dir : Path} {dirs : List Path} {layers : List Layer} {fault : Fault}

/-! ### Files of directories -/

/-- Where the configuration file of a directory is. -/
def fileIn (dir : Path) : Path := dir.join Config.fileName

/-- The directories that have a configuration file. -/
def withFile (around : Surroundings) (dirs : List Path) : List Path :=
  dirs.filter fun dir => around.find (fileIn dir) ≠ .missing

/-- The parts of the path of a layer. -/
def parts (layer : Layer) : List (List Char) := Path.parts layer.path.toList

/-- A layer is what the configuration file of a directory says. -/
structure IsFileOf (around : Surroundings) (dir : Path) (layer : Layer) : Prop where
  path_eq : layer.path = String.ofList (fileIn dir)
  load_eq : Config.load around (fileIn dir) = .ok layer.config

/-- What a layer says has been read from a text. -/
lemma IsFileOf.exists_text {layer : Layer} (h : IsFileOf around dir layer) :
    ∃ text, around.find (fileIn dir) = .text text ∧
      Config.read layer.path text = .ok layer.config := by
  have hload := h.load_eq
  unfold Config.load at hload
  split at hload
  · cases hload
  · cases hload
  next text htext => exact ⟨text, htext, h.path_eq ▸ hload⟩

lemma IsFileOf.find_ne {layer : Layer} (h : IsFileOf around dir layer) :
    around.find (fileIn dir) ≠ .missing := by
  obtain ⟨text, htext, -⟩ := h.exists_text
  simp [htext]

lemma withFile_of_missing (h : around.find (fileIn dir) = .missing) :
    withFile around (dir :: dirs) = withFile around dirs :=
  List.filter_cons_of_neg (by simp [h])

lemma withFile_of_file (h : around.find (fileIn dir) ≠ .missing) :
    withFile around (dir :: dirs) = dir :: withFile around dirs :=
  List.filter_cons_of_pos (by simp [h])

lemma inDir?_of_missing (h : around.find (fileIn dir) = .missing) : inDir? around dir = .ok none := by
  unfold fileIn at h
  simp [inDir?, h]

lemma inDir?_of_file (h : around.find (fileIn dir) ≠ .missing) :
    inDir? around dir = (Config.load around (fileIn dir)).map
      fun config => some ⟨String.ofList (fileIn dir), config⟩ := by
  unfold fileIn at h ⊢
  unfold inDir?
  rw [if_neg h]
  cases Config.load around (dir.join Config.fileName) <;> rfl

/-! ### The walk up -/

/-- The layers that a walk through directories leads to. They are what the files there say, from the
first on. A root ends the walk, so none but the last is one, and files are left only behind a
root. -/
def Walked (around : Surroundings) (dirs : List Path) (layers : List Layer) : Prop :=
  ∃ read unread, withFile around dirs = read ++ unread ∧
    List.Forall₂ (IsFileOf around) read layers ∧
    (∀ layer ∈ layers.dropLast, layer.config.root = false) ∧
    (unread = [] ∨ ∃ layer ∈ layers.getLast?, layer.config.root = true)

/-- The fault of a walk through directories: that of a file such that the ones before it are all in
order, and none of them is a root. -/
def FirstFault (around : Surroundings) (dirs : List Path) (fault : Fault) : Prop :=
  ∃ read dir unread, withFile around dirs = read ++ dir :: unread ∧
    (∀ other ∈ read, ∃ config, Config.load around (fileIn other) = .ok config ∧
      config.root = false) ∧
    Config.load around (fileIn dir) = .error fault

lemma walked_nil : Walked around [] layers ↔ layers = [] := by
  constructor
  · rintro ⟨read, unread, hsplit, hfiles, -⟩
    obtain ⟨rfl, rfl⟩ := List.append_eq_nil_iff.mp hsplit.symm
    exact List.forall₂_nil_left_iff.mp hfiles
  · rintro rfl
    exact ⟨[], [], rfl, .nil, by simp, Or.inl rfl⟩

lemma walked_of_missing (h : around.find (fileIn dir) = .missing) :
    Walked around (dir :: dirs) layers ↔ Walked around dirs layers := by
  rw [Walked, withFile_of_missing h, Walked]

/-- A walk begins with the nearest file, and goes on behind it unless that is a root. -/
lemma walked_of_file (h : around.find (fileIn dir) ≠ .missing) :
    Walked around (dir :: dirs) layers ↔ ∃ layer more, layers = layer :: more ∧
      IsFileOf around dir layer ∧
      if layer.config.root = true then more = [] else Walked around dirs more := by
  rw [Walked, withFile_of_file h]
  constructor
  · rintro ⟨read, unread, hall, hfiles, hroots, hend⟩
    cases hfiles with
    | nil => rcases hend with rfl | ⟨_, hlast, -⟩ <;> simp_all
    | @cons _ layer read more hfile hfiles =>
    obtain ⟨rfl, hsplit⟩ := List.cons.inj hall
    refine ⟨layer, more, rfl, hfile, ?_⟩
    -- only the last layer may be a root, so this one is none unless it is the last
    rcases List.eq_nil_or_concat' more with rfl | ⟨front, last, rfl⟩
    · split_ifs with hroot
      · rfl
      · refine ⟨read, unread, hsplit, hfiles, by simp, Or.inl ?_⟩
        exact hend.resolve_right (by simp [hroot])
    · rw [← List.cons_append, List.dropLast_concat] at hroots
      rw [if_neg (by simp [hroots layer List.mem_cons_self])]
      refine ⟨read, unread, hsplit, hfiles, fun other hother => ?_, ?_⟩
      · rw [List.dropLast_concat] at hother
        exact hroots other (List.mem_cons_of_mem _ hother)
      · rw [← List.cons_append, List.getLast?_concat] at hend
        rwa [List.getLast?_concat]
  · rintro ⟨layer, more, rfl, hfile, hmore⟩
    split_ifs at hmore with hroot
    · subst hmore
      exact ⟨[dir], withFile around dirs, rfl, .cons hfile .nil, by simp, Or.inr ⟨layer, rfl, hroot⟩⟩
    · obtain ⟨read, unread, hsplit, hfiles, hroots, hend⟩ := hmore
      refine ⟨dir :: read, unread, by rw [hsplit]; rfl, .cons hfile hfiles, fun other hother => ?_, ?_⟩
      · rcases more with _ | ⟨next, more⟩
        · simp at hother
        · rw [List.dropLast_cons_cons] at hother
          rcases List.mem_cons.mp hother with rfl | hother
          · exact Bool.eq_false_iff.mpr hroot
          · exact hroots other hother
      · refine hend.imp_right fun ⟨last, hlast, hlastRoot⟩ => ⟨last, ?_, hlastRoot⟩
        rw [Option.mem_def] at hlast ⊢
        rw [List.getLast?_cons, hlast]
        rfl

lemma not_firstFault_nil : ¬ FirstFault around [] fault := by
  rintro ⟨read, dir, unread, hsplit, -⟩
  simp [withFile] at hsplit

lemma firstFault_of_missing (h : around.find (fileIn dir) = .missing) :
    FirstFault around (dir :: dirs) fault ↔ FirstFault around dirs fault := by
  rw [FirstFault, withFile_of_missing h, FirstFault]

/-- The fault of a walk is that of the nearest file, or one behind it if that is no root. -/
lemma firstFault_of_file (h : around.find (fileIn dir) ≠ .missing) :
    FirstFault around (dir :: dirs) fault ↔ Config.load around (fileIn dir) = .error fault ∨
      ∃ config, Config.load around (fileIn dir) = .ok config ∧ config.root = false ∧
        FirstFault around dirs fault := by
  rw [FirstFault, withFile_of_file h]
  constructor
  · rintro ⟨read, other, unread, hall, hread, hfault⟩
    rcases read with _ | ⟨first, read⟩
    · obtain ⟨rfl, -⟩ := List.cons.inj hall
      exact Or.inl hfault
    · obtain ⟨rfl, hsplit⟩ := List.cons.inj hall
      obtain ⟨⟨config, hload, hroot⟩, hread⟩ := List.forall_mem_cons.mp hread
      exact Or.inr ⟨config, hload, hroot, read, other, unread, hsplit, hread, hfault⟩
  · rintro (hfault | ⟨config, hload, hroot, read, other, unread, hsplit, hread, hfault⟩)
    · exact ⟨[], dir, withFile around dirs, rfl, by simp, hfault⟩
    · exact ⟨dir :: read, other, unread, by rw [hsplit]; rfl,
        List.forall_mem_cons.mpr ⟨⟨config, hload, hroot⟩, hread⟩, hfault⟩

lemma isFileOf_iff {config : Config} (hload : Config.load around (fileIn dir) = .ok config)
    {layer : Layer} :
    IsFileOf around dir layer ↔ layer = ⟨String.ofList (fileIn dir), config⟩ := by
  constructor
  · rintro ⟨hpath, hlayer⟩
    obtain ⟨path, own⟩ := layer
    obtain rfl : config = own := Except.ok.inj (hload.symm.trans hlayer)
    rw [← hpath]
  · rintro rfl
    exact ⟨rfl, hload⟩

lemma climb_of_missing (h : around.find (fileIn dir) = .missing) :
    climb around (dir :: dirs) = climb around dirs := by
  rw [climb, inDir?_of_missing h]
  rfl

lemma climb_of_broken (h : around.find (fileIn dir) ≠ .missing)
    (hload : Config.load around (fileIn dir) = .error fault) :
    climb around (dir :: dirs) = .error fault := by
  rw [climb, inDir?_of_file h, hload]
  rfl

lemma climb_of_read {config : Config} (h : around.find (fileIn dir) ≠ .missing)
    (hload : Config.load around (fileIn dir) = .ok config) :
    climb around (dir :: dirs) =
      if config.root then .ok [⟨String.ofList (fileIn dir), config⟩]
      else (climb around dirs).map (⟨String.ofList (fileIn dir), config⟩ :: ·) := by
  rw [climb, inDir?_of_file h, hload]
  cases climb around dirs <;> rfl

/-- The walk up ends with layers or with a fault, as the files on it say. -/
lemma climb_spec (around : Surroundings) (dirs : List Path) :
    (∀ layers, climb around dirs = .ok layers ↔ Walked around dirs layers) ∧
      ∀ fault, climb around dirs = .error fault ↔ FirstFault around dirs fault := by
  induction dirs with
  | nil =>
    refine ⟨fun layers => ?_, fun fault => iff_of_false (by simp [climb]) not_firstFault_nil⟩
    rw [walked_nil, climb, Except.ok.injEq]
    exact eq_comm
  | cons dir dirs ih =>
    obtain ⟨hwalked, hfault⟩ := ih
    -- a directory without a file is passed over; a file ends the walk if it is broken or a root
    by_cases hfile : around.find (fileIn dir) = .missing
    · simp only [walked_of_missing hfile, firstFault_of_missing hfile, climb_of_missing hfile]
      exact ⟨hwalked, hfault⟩
    simp only [walked_of_file hfile, firstFault_of_file hfile]
    cases hload : Config.load around (fileIn dir) with
    | error broken =>
      rw [climb_of_broken hfile hload]
      refine ⟨fun layers => iff_of_false (fun h => by cases h) ?_, fun fault => ?_⟩
      · rintro ⟨layer, more, -, hlayer, -⟩
        cases hload.symm.trans hlayer.load_eq
      · simp
    | ok config =>
      have hlayer (layer : Layer) : IsFileOf around dir layer ↔ layer = _ := isFileOf_iff hload
      rw [climb_of_read hfile hload]
      cases hroot : config.root with
      | true =>
        refine ⟨fun layers => ?_, fun fault => ?_⟩
        · simpa [hlayer, hroot] using eq_comm
        · simp [hroot]
      | false =>
        refine ⟨fun layers => ?_, fun fault => ?_⟩
        · simpa [hlayer, hroot, ← hwalked, map_eq_ok] using
            exists_congr fun more => by rw [and_comm, eq_comm]
        · simp [hroot, ← hfault, map_eq_error]

/-! ### The file in the home directory -/

/-- One of the layers names a variable whose value switches off the file in the home directory. -/
def Silences (around : Surroundings) (layers : List Layer) : Prop :=
  ∃ layer ∈ layers, ∃ name value, layer.config.homeSwitch = some name ∧
    around.valueOf name = some value ∧ value ≠ "" ∧ value.toLower ∉ ["0", "false", "no"]

lemma any_switchesOffHome : layers.any (switchesOffHome around) = true ↔ Silences around layers := by
  rw [List.any_eq_true]
  refine exists_congr fun layer => and_congr_right' ?_
  rw [switchesOffHome, Option.any_eq_true]
  refine exists_congr fun name => ?_
  rw [Surroundings.isOn]
  cases around.valueOf name with
  | none => simp
  | some value =>
    have hempty : value.toLower = "" ↔ value = "" := String.map_eq_empty
    simp [hempty, and_assoc]

/-- **The documented cascade** in a directory: what the search for configurations has to come to.
The walk may break, and a layer may switch off the file in the home directory. Otherwise that file
may be missing, be broken, be one of those that the walk has met, or join them. -/
inductive Cascade (around : Surroundings) (start : Path) : Except Fault (List Layer) → Prop
  | broken {fault : Fault} (walk : FirstFault around start.ancestors fault) :
      Cascade around start (.error fault)
  | silenced {walked : List Layer} (walk : Walked around start.ancestors walked)
      (off : Silences around walked) : Cascade around start (.ok walked)
  | homeless {walked : List Layer} (walk : Walked around start.ancestors walked)
      (on : ¬ Silences around walked) (none : around.find (fileIn around.home) = .missing) :
      Cascade around start (.ok walked)
  | homeBroken {walked : List Layer} {fault : Fault} (walk : Walked around start.ancestors walked)
      (on : ¬ Silences around walked) (some : around.find (fileIn around.home) ≠ .missing)
      (fails : Config.load around (fileIn around.home) = .error fault) :
      Cascade around start (.error fault)
  | known {walked : List Layer} {layer : Layer} (walk : Walked around start.ancestors walked)
      (on : ¬ Silences around walked) (file : IsFileOf around around.home layer)
      (met : ∃ other ∈ walked, other.parts = layer.parts) :
      Cascade around start (.ok walked)
  | added {walked : List Layer} {layer : Layer} (walk : Walked around start.ancestors walked)
      (on : ¬ Silences around walked) (file : IsFileOf around around.home layer)
      (new : ∀ other ∈ walked, other.parts ≠ layer.parts) :
      Cascade around start (.ok (walked ++ [layer]))

lemma any_same {layer : Layer} :
    (layers.any fun other => Path.same other.path.toList layer.path.toList) = true ↔
      ∃ other ∈ layers, other.parts = layer.parts := by
  simp only [List.any_eq_true, Path.same_iff, parts]

lemma IsFileOf.inDir? {layer : Layer} (h : IsFileOf around dir layer) :
    inDir? around dir = .ok (some layer) := by
  rw [inDir?_of_file h.find_ne, h.load_eq, Except.map, ← h.path_eq]

section

variable {start : Path} {walked : List Layer} (walk : Walked around start.ancestors walked)

include walk

lemma discover_of_silenced (off : Silences around walked) : discover around start = .ok walked := by
  rw [discover, ((climb_spec around _).1 _).mpr walk]
  exact if_pos (any_switchesOffHome.mpr off)

/-- If nothing switches off the file in the home directory, it decides about the outcome. -/
lemma discover_of_walked (on : ¬ Silences around walked) :
    discover around start = inDir? around around.home >>= fun home =>
      match home with
      | none => .ok walked
      | some layer =>
        if ∃ other ∈ walked, other.parts = layer.parts then .ok walked
        else .ok (walked ++ [layer]) := by
  rw [discover, ((climb_spec around _).1 _).mpr walk]
  simp only [← any_same]
  exact if_neg (mt any_switchesOffHome.mp on)

end

lemma Cascade.discover_eq {start : Path} {found : Except Fault (List Layer)}
    (h : Cascade around start found) : discover around start = found := by
  cases h with
  | broken walk =>
    rw [discover, ((climb_spec around _).2 _).mpr walk]
    rfl
  | silenced walk off => exact discover_of_silenced walk off
  | homeless walk on none =>
    rw [discover_of_walked walk on, inDir?_of_missing none]
    rfl
  | homeBroken walk on some fails =>
    rw [discover_of_walked walk on, inDir?_of_file some, fails]
    rfl
  | known walk on file met =>
    rw [discover_of_walked walk on, file.inDir?]
    exact if_pos met
  | added walk on file new =>
    rw [discover_of_walked walk on, file.inDir?]
    exact if_neg fun ⟨other, hother, hsame⟩ => new other hother hsame

lemma Walked.exists_dir (h : Walked around dirs layers) :
    ∀ layer ∈ layers, ∃ dir ∈ dirs, IsFileOf around dir layer := by
  obtain ⟨read, unread, hall, hfiles, -⟩ := h
  have hread : read ⊆ dirs := fun dir hdir =>
    (List.mem_filter.mp (hall ▸ List.mem_append_left unread hdir : dir ∈ withFile around dirs)).1
  intro layer hlayer
  obtain ⟨dir, hdir, hfile⟩ := exists_mem_of_forall₂ hfiles layer hlayer
  exact ⟨dir, hread hdir, hfile⟩

/-- The search only finds files on the way up, and behind them the one in the home directory. -/
lemma Cascade.exists_walk {start : Path} (h : Cascade around start (.ok layers)) :
    ∃ walked, Walked around start.ancestors walked ∧
      (layers = walked ∨ ∃ layer, layers = walked ++ [layer] ∧ IsFileOf around around.home layer ∧
        ∀ other ∈ walked, other.parts ≠ layer.parts) := by
  cases h with
  | silenced walk _ => exact ⟨_, walk, Or.inl rfl⟩
  | homeless walk _ _ => exact ⟨_, walk, Or.inl rfl⟩
  | known walk _ _ _ => exact ⟨_, walk, Or.inl rfl⟩
  | added walk _ file new => exact ⟨_, walk, Or.inr ⟨_, rfl, file, new⟩⟩

lemma Cascade.exists_dir {start : Path} (h : Cascade around start (.ok layers)) :
    ∀ layer ∈ layers, ∃ dir, (dir ∈ start.ancestors ∨ dir = around.home) ∧
      IsFileOf around dir layer := by
  obtain ⟨walked, walk, hlayers⟩ := h.exists_walk
  have hwalked : ∀ layer ∈ walked, ∃ dir, (dir ∈ start.ancestors ∨ dir = around.home) ∧
      IsFileOf around dir layer := by
    intro layer hlayer
    obtain ⟨dir, hdir, hfile⟩ := walk.exists_dir layer hlayer
    exact ⟨dir, Or.inl hdir, hfile⟩
  rcases hlayers with rfl | ⟨layer, rfl, file, -⟩
  · exact hwalked
  · exact List.forall_mem_append.mpr
      ⟨hwalked, List.forall_mem_singleton.mpr ⟨around.home, Or.inr rfl, file⟩⟩

lemma exists_cascade (around : Surroundings) (start : Path) :
    ∃ found, Cascade around start found := by
  cases hclimb : climb around start.ancestors with
  | error fault => exact ⟨_, .broken (((climb_spec around _).2 _).mp hclimb)⟩
  | ok walked =>
    have walk := ((climb_spec around _).1 _).mp hclimb
    by_cases off : Silences around walked
    · exact ⟨_, .silenced walk off⟩
    by_cases hhome : around.find (fileIn around.home) = .missing
    · exact ⟨_, .homeless walk off hhome⟩
    cases hload : Config.load around (fileIn around.home) with
    | error fault => exact ⟨_, .homeBroken walk off hhome hload⟩
    | ok config =>
      obtain ⟨layer, file⟩ : ∃ layer, IsFileOf around around.home layer :=
        ⟨⟨_, config⟩, rfl, hload⟩
      by_cases met : ∃ other ∈ walked, other.parts = layer.parts
      · exact ⟨_, .known walk off file met⟩
      · exact ⟨_, .added walk off file fun other hother hsame => met ⟨other, hother, hsame⟩⟩

/-! ### Nothing else is read -/

section

variable {other : Surroundings}

lemma inDir?_congr (h : other.find (fileIn dir) = around.find (fileIn dir)) :
    inDir? other dir = inDir? around dir := by
  unfold fileIn at h
  simp only [inDir?, Config.load, h]

lemma climb_congr (h : ∀ dir ∈ dirs, other.find (fileIn dir) = around.find (fileIn dir)) :
    climb other dirs = climb around dirs := by
  induction dirs with
  | nil => rfl
  | cons dir dirs ih =>
    obtain ⟨hdir, hdirs⟩ := List.forall_mem_cons.mp h
    rw [climb, climb, inDir?_congr hdir, ih hdirs]

/-- A walk that meets a root ends there. -/
lemma climb_append_of_root {read : List Path} (unread : List Path)
    (h : ∃ dir ∈ read, ∃ layer, IsFileOf around dir layer ∧ layer.config.root = true) :
    climb around (read ++ unread) = climb around read := by
  induction read with
  | nil => simp at h
  | cons dir read ih =>
    rw [List.cons_append]
    -- the root is this file or farther up
    by_cases hfile : around.find (fileIn dir) = .missing
    · rw [climb_of_missing hfile, climb_of_missing hfile]
      refine ih ?_
      obtain ⟨root, hmem, layer, hlayer, hroot⟩ := h
      rcases List.mem_cons.mp hmem with rfl | hmem
      · exact absurd hfile hlayer.find_ne
      · exact ⟨root, hmem, layer, hlayer, hroot⟩
    cases hload : Config.load around (fileIn dir) with
    | error broken => rw [climb_of_broken hfile hload, climb_of_broken hfile hload]
    | ok config =>
      rw [climb_of_read hfile hload, climb_of_read hfile hload]
      cases hconfig : config.root with
      | true => rfl
      | false =>
        rw [ih ?_]
        obtain ⟨root, hmem, layer, hlayer, hroot⟩ := h
        rcases List.mem_cons.mp hmem with rfl | hmem
        · rw [(isFileOf_iff hload).mp hlayer, hconfig] at hroot
          cases hroot
        · exact ⟨root, hmem, layer, hlayer, hroot⟩

lemma discover_congr {start : Path} (hclimb : climb other start.ancestors = climb around start.ancestors)
    (hhome : other.home = around.home) (hvalue : other.valueOf = around.valueOf)
    (hfind : other.find (fileIn around.home) = around.find (fileIn around.home)) :
    discover other start = discover around start := by
  have hoff : switchesOffHome other = switchesOffHome around := by
    funext layer
    unfold switchesOffHome Surroundings.isOn
    rw [hvalue]
  rw [discover, hclimb, hoff, hhome, inDir?_congr hfind, discover]

/-- The files behind a root do not matter, apart from the one in the home directory. -/
lemma discover_eq_of_root {start : Path} {read unread : List Path}
    (hsplit : start.ancestors = read ++ unread)
    (hroot : ∃ dir ∈ read, ∃ layer, IsFileOf around dir layer ∧ layer.config.root = true)
    (hhome : other.home = around.home) (hvalue : other.valueOf = around.valueOf)
    (hfind : ∀ dir, dir ∈ read ∨ dir = around.home →
      other.find (fileIn dir) = around.find (fileIn dir)) :
    discover other start = discover around start := by
  refine discover_congr ?_ hhome hvalue (hfind _ (Or.inr rfl))
  have hread (dir) (hdir : dir ∈ read) := hfind dir (Or.inl hdir)
  rw [hsplit, climb_append_of_root unread hroot, ← climb_congr hread]
  refine climb_append_of_root unread ?_
  obtain ⟨dir, hdir, layer, hlayer, hlayerRoot⟩ := hroot
  refine ⟨dir, hdir, layer, ⟨hlayer.path_eq, ?_⟩, hlayerRoot⟩
  rw [← hlayer.load_eq, Config.load, Config.load, hread dir hdir]

end

/-! ### Paths of layers -/

lemma IsFileOf.parts_eq {layer : Layer} (h : IsFileOf around dir layer) :
    layer.parts = Path.parts dir ++ [Config.fileName] := by
  rw [parts, h.path_eq, String.toList_ofList]
  exact Path.parts_join dir (by decide) (by decide)

/-- The walk up meets no path twice. -/
lemma Walked.pairwise {start : Path} (h : Walked around start.ancestors layers) :
    layers.Pairwise fun a b => a.parts ≠ b.parts := by
  obtain ⟨read, unread, hall, hfiles, -⟩ := h
  have hparts : read.map (fun dir => Path.parts dir ++ [Config.fileName]) = layers.map parts := by
    rw [← List.forall₂_eq_eq_eq, List.forall₂_map_left_iff, List.forall₂_map_right_iff]
    exact hfiles.imp fun _ _ hfile => hfile.parts_eq.symm
  have hread : read.Sublist start.ancestors :=
    (List.sublist_append_left read unread).trans (hall ▸ List.filter_sublist)
  rw [← List.pairwise_map, ← hparts, List.pairwise_map]
  refine ((Path.pairwise_ancestors start).sublist hread).imp fun hlt hsame => ?_
  exact absurd (congrArg List.length (List.append_cancel_right hsame)) (Nat.ne_of_gt hlt)

lemma Cascade.pairwise {start : Path} (h : Cascade around start (.ok layers)) :
    layers.Pairwise fun a b => a.parts ≠ b.parts := by
  obtain ⟨walked, walk, hlayers⟩ := h.exists_walk
  rcases hlayers with rfl | ⟨layer, rfl, -, new⟩
  · exact walk.pairwise
  · refine List.pairwise_append.mpr ⟨walk.pairwise, List.pairwise_singleton _ _, ?_⟩
    intro other hother last hlast
    rw [List.mem_singleton.mp hlast]
    exact new other hother

/-- **The search finds the documented cascade**, in all surroundings and from every start. The
directories of the walk are the start and then one parent after the other, to the end. What the
search comes to is a case of the cascade, and no other. If the walk meets a root, no file behind it
is read: what is there does not matter, unless it is the file in the home directory. No two of the
layers found have the same path, and merging keeps their rules in this order. -/
theorem discover_eq_iff_cascade (around : Surroundings) (start : Path) :
    (start.ancestors[0]? = some start ∧
      ∀ k dir, start.ancestors[k]? = some dir → start.ancestors[k + 1]? = Path.parent? dir) ∧
    (∀ found, discover around start = found ↔ Cascade around start found) ∧
    (∀ read unread, start.ancestors = read ++ unread →
      (∃ dir ∈ read, ∃ layer, IsFileOf around dir layer ∧ layer.config.root = true) →
      ∀ other : Surroundings, other.home = around.home → other.valueOf = around.valueOf →
        (∀ dir, dir ∈ read ∨ dir = around.home →
          other.find (fileIn dir) = around.find (fileIn dir)) →
        discover other start = discover around start) ∧
    ∀ layers, discover around start = .ok layers →
      layers.Pairwise (fun a b => a.parts ≠ b.parts) ∧
      ∃ stack, Stack.discover around start = .ok stack ∧
        stack.rules = layers.flatMap fun layer =>
          layer.config.rules.map fun entry => ⟨entry, layer.path⟩ := by
  have hcascade (found) : discover around start = found ↔ Cascade around start found := by
    refine ⟨?_, Cascade.discover_eq⟩
    rintro rfl
    obtain ⟨found, hfound⟩ := exists_cascade around start
    rwa [hfound.discover_eq]
  refine ⟨⟨by rw [Path.ancestors_eq]; rfl, fun k dir => Path.getElem?_ancestors_succ start⟩,
    hcascade, fun read unread hsplit hroot other => discover_eq_of_root hsplit hroot,
    fun layers hlayers => ⟨((hcascade _).mp hlayers).pairwise, ?_⟩⟩
  refine ⟨Stack.ofLayers layers, ?_, rfl⟩
  rw [Stack.discover, hlayers]
  rfl

/-- Four files. The second on the way up is a root, so the broken one above it does not count. -/
def site : Surroundings where
  find path := (([("/srv//app/.pathreduce.toml", "[[rules]]\npattern = 'job-([0-9]+)'\n"),
      ("/srv/.pathreduce.toml", "root = true\n[[rules]]\npattern = 'v([0-9]+)'\n"),
      ("/.pathreduce.toml", "["),
      ("/home/.pathreduce.toml", "disable-builtin-rules = true\n")].lookup
    (String.ofList path)).map Files.Finding.text).getD .missing
  valueOf _ := none
  home := "/home".toList

theorem discover_site : ∃ layers, discover site "/srv//app/./bin".toList = .ok layers ∧
    layers.map Layer.path =
      ["/srv//app/.pathreduce.toml", "/srv/.pathreduce.toml", "/home/.pathreduce.toml"] ∧
    layers.Pairwise (fun a b => a.parts ≠ b.parts) ∧
    ∃ stack, Stack.discover site "/srv//app/./bin".toList = .ok stack ∧
      stack.rules.map (fun sourced => sourced.entry.pattern) = ["job-([0-9]+)", "v([0-9]+)"] := by
  obtain ⟨layers, hlayers, hshown⟩ := map_eq_ok.mp (show
    (discover site "/srv//app/./bin".toList).map (List.map fun layer =>
        (layer.path, layer.config.rules.map RuleEntry.pattern)) =
      .ok [("/srv//app/.pathreduce.toml", ["job-([0-9]+)"]),
        ("/srv/.pathreduce.toml", ["v([0-9]+)"]), ("/home/.pathreduce.toml", [])] by
    decide +kernel)
  obtain ⟨hpairwise, stack, hstack, hrules⟩ :=
    (discover_eq_iff_cascade site "/srv//app/./bin".toList).2.2.2 layers hlayers
  have hpaths := congrArg (List.map Prod.fst) hshown
  have hpatterns := congrArg (List.flatMap Prod.snd) hshown
  rw [List.map_map] at hpaths
  rw [List.flatMap_map] at hpatterns
  refine ⟨layers, hlayers, hpaths, hpairwise, stack, hstack, ?_⟩
  simp only [hrules, List.map_flatMap, List.map_map]
  exact hpatterns

end Layer

end StablePath
