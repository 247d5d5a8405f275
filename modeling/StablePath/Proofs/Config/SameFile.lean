import StablePath.Proofs.Config.Discovery
import StablePath.Proofs.Config.Reading
import StablePath.Proofs.Files.Location

/-!
Layers of one file.

The search for configurations compares paths, not files, and it goes up by dropping names, also
where these are two dots. What it finds has different paths, but in a tree two of them may still
lead to one file. This takes two dots in the start or in the home directory. A file that is found
again is read again, and its rules are merged once more.
-/

namespace StablePath

open Files (Location Path Tree)

/-- The file in a tree that a path leads to, if there is one. -/
def fileOf? (tree : Tree) (workingDir : Location) (path : String) : Option Location :=
  tree.resolve? workingDir path.toList

namespace Layer

variable {tree : Tree} {workingDir : Location} {vars : List (String × String)} {home start : Path}
  {layer other : Layer} {layers walked : List Layer}

/-- The layers that come from the file of a layer. -/
def ofSameFile (tree : Tree) (workingDir : Location) (layers : List Layer) (layer : Layer) :
    List Layer :=
  layers.filter fun other => fileOf? tree workingDir other.path = fileOf? tree workingDir layer.path

/-- No two layers come from one file. -/
def Distinct (tree : Tree) (workingDir : Location) (layers : List Layer) : Prop :=
  layers.Pairwise fun a b => fileOf? tree workingDir a.path ≠ fileOf? tree workingDir b.path

lemma ofSameFile_of_distinct (h : Distinct tree workingDir layers) (hlayer : layer ∈ layers) :
    ofSameFile tree workingDir layers layer = [layer] := by
  induction layers with
  | nil => cases hlayer
  | cons first layers ih =>
    obtain ⟨hfirst, hlayers⟩ := List.pairwise_cons.mp h
    unfold ofSameFile at ih ⊢
    rcases List.mem_cons.mp hlayer with rfl | hmem
    · have hnone : layers.filter (fun other =>
          fileOf? tree workingDir other.path = fileOf? tree workingDir layer.path) = [] := by
        refine List.filter_eq_nil_iff.mpr fun other hother => ?_
        simp [Ne.symm (hfirst other hother)]
      rw [List.filter_cons_of_pos (by simp), hnone]
    · rw [List.filter_cons_of_neg (by simp [hfirst layer hmem]), ih hlayers hmem]

/-! ### The place of a layer -/

section

variable {dir dir' : Path}

lemma IsFileOf.fileOf?_eq (h : IsFileOf (.ofTree tree workingDir vars home) dir layer)
    (hdir : dir.IsAbsolute) :
    fileOf? tree workingDir layer.path = some (Path.place layer.path.toList) := by
  have hpath : layer.path.toList = fileIn dir := by rw [h.path_eq, String.toList_ofList]
  rw [fileOf?, hpath]
  cases hresolve : tree.resolve? workingDir (fileIn dir) with
  | none => exact absurd (by simp [Surroundings.ofTree, Tree.find, hresolve]) h.find_ne
  | some there =>
    have hfile : (fileIn dir).IsAbsolute := hdir.join Config.fileName
    rw [Tree.eq_place_of_resolve? hfile hresolve]

lemma IsFileOf.place_eq {around : Surroundings} (h : IsFileOf around dir layer)
    (hdir : dir.IsAbsolute) (hdots : Path.dots ∉ dir.names) :
    ['/'] :: Path.place layer.path.toList = layer.parts := by
  have hpath : layer.path.toList = fileIn dir := by rw [h.path_eq, String.toList_ofList]
  have hfile : (fileIn dir).IsAbsolute := hdir.join Config.fileName
  have hnames : (fileIn dir).names = dir.names ++ [Config.fileName] :=
    hdir.names_join (by decide) (by decide)
  have hno : Path.dots ∉ (fileIn dir).names := by
    rw [hnames, List.mem_append]
    exact not_or.mpr ⟨hdots, by decide⟩
  rw [parts, hpath, hfile.parts_eq, Path.place_of_not_mem hno]

lemma config_eq_of_fileOf?_eq (h : IsFileOf (.ofTree tree workingDir vars home) dir layer)
    (h' : IsFileOf (.ofTree tree workingDir vars home) dir' other)
    (hfile : fileOf? tree workingDir other.path = fileOf? tree workingDir layer.path) :
    other.config = layer.config := by
  obtain ⟨text, htext, hread⟩ := h.exists_text
  obtain ⟨text', htext', hread'⟩ := h'.exists_text
  rw [fileOf?, fileOf?, h.path_eq, h'.path_eq, String.toList_ofList, String.toList_ofList] at hfile
  have hsame : Files.Finding.text text' = .text text := by
    rw [← htext, ← htext']
    simp only [Surroundings.ofTree, Tree.find, hfile]
  cases hsame
  exact (Config.read_eq_ok_iff.mp hread').1.unique (Config.read_eq_ok_iff.mp hread).1

end

/-! ### When no file is found twice -/

lemma distinct_of_dirs (hpairwise : layers.Pairwise fun a b => a.parts ≠ b.parts)
    (hdirs : ∀ layer ∈ layers, ∃ dir : Path, (dir.IsAbsolute ∧ Path.dots ∉ dir.names) ∧
      IsFileOf (.ofTree tree workingDir vars home) dir layer) :
    Distinct tree workingDir layers := by
  refine hpairwise.imp_of_mem fun {a b} ha hb hparts hfile => hparts ?_
  obtain ⟨dir, ⟨hdir, hdots⟩, hfileA⟩ := hdirs a ha
  obtain ⟨dir', ⟨hdir', hdots'⟩, hfileB⟩ := hdirs b hb
  rw [hfileA.fileOf?_eq hdir, hfileB.fileOf?_eq hdir'] at hfile
  rw [← hfileA.place_eq hdir hdots, ← hfileB.place_eq hdir' hdots', Option.some.inj hfile]

section

variable (hstart : start.IsAbsolute) (hdots : Path.dots ∉ start.names)

include hstart hdots

lemma dots_not_mem_of_mem_ancestors {dir : Path} (hdir : dir ∈ start.ancestors) :
    dir.IsAbsolute ∧ Path.dots ∉ dir.names := by
  obtain ⟨habsolute, hnames⟩ := hstart.of_mem_ancestors hdir
  exact ⟨habsolute, fun hmem => hdots (hnames.subset hmem)⟩

/-- The walk up from a start without two dots meets no file twice. -/
lemma Walked.distinct (walk : Walked (.ofTree tree workingDir vars home) start.ancestors walked) :
    Distinct tree workingDir walked := by
  have hdirs : ∀ layer ∈ walked, ∃ dir : Path, (dir.IsAbsolute ∧ Path.dots ∉ dir.names) ∧
      IsFileOf (.ofTree tree workingDir vars home) dir layer := by
    intro layer hlayer
    obtain ⟨dir, hdir, hfile⟩ := walk.exists_dir layer hlayer
    exact ⟨dir, dots_not_mem_of_mem_ancestors hstart hdots hdir, hfile⟩
  exact distinct_of_dirs walk.pairwise hdirs

lemma Cascade.distinct (h : Cascade (.ofTree tree workingDir vars home) start (.ok layers))
    (hhome : home.IsAbsolute) (hhomeDots : Path.dots ∉ home.names) :
    Distinct tree workingDir layers := by
  have hdirs : ∀ layer ∈ layers, ∃ dir : Path, (dir.IsAbsolute ∧ Path.dots ∉ dir.names) ∧
      IsFileOf (.ofTree tree workingDir vars home) dir layer := by
    intro layer hlayer
    obtain ⟨dir, hdir | rfl, hfile⟩ := h.exists_dir layer hlayer
    · exact ⟨dir, dots_not_mem_of_mem_ancestors hstart hdots hdir, hfile⟩
    · exact ⟨_, ⟨hhome, hhomeDots⟩, hfile⟩
  exact distinct_of_dirs h.pairwise hdirs

end

end Layer

namespace Stack

variable {tree : Tree} {workingDir : Location}

/-- The merged rules that come from the file of a layer. -/
def rulesOf (tree : Tree) (workingDir : Location) (stack : Stack) (layer : Layer) :
    List SourcedEntry :=
  stack.rules.filter fun sourced =>
    fileOf? tree workingDir sourced.source = fileOf? tree workingDir layer.path

lemma rulesOf_ofLayers (layers : List Layer) (layer : Layer) :
    (ofLayers layers).rulesOf tree workingDir layer =
      (ofLayers (Layer.ofSameFile tree workingDir layers layer)).rules := by
  induction layers with
  | nil => rfl
  | cons first layers ih =>
    unfold rulesOf Layer.ofSameFile ofLayers at ih ⊢
    rw [List.flatMap_cons, List.filter_append, ih, List.filter_map, List.filter_cons]
    by_cases hsame : fileOf? tree workingDir first.path = fileOf? tree workingDir layer.path
    · simp [hsame, Function.comp_def]
    · simp [hsame, Function.comp_def]

end Stack

namespace Layer

open Stack (rulesOf)

/-- **A file is found twice only by way of two dots**, in a tree and from an absolute start, where
the home directory is absolute too. Each layer comes from the file at the place that its path tells,
so two layers come from one file exactly if their paths are the same once each two dots have
cancelled the name before them. The layers are those of the walk up, and behind them there may be
the one in the home directory. If the start has no two dots, the walk up meets no file twice. If the
home directory has none either, no two layers come from one file, and the merged rules that come
from the file of a layer are those that it declares, once each and in order. In any case its rules
are merged once for each layer from that file. -/
theorem discover_finds_files_once {tree : Tree} {workingDir : Location}
    {vars : List (String × String)} {home start : Path} {layers : List Layer}
    (hstart : start.IsAbsolute) (hhome : home.IsAbsolute)
    (h : discover (.ofTree tree workingDir vars home) start = .ok layers) :
    (∀ layer ∈ layers, fileOf? tree workingDir layer.path = some (Path.place layer.path.toList)) ∧
    (∃ walked, Walked (.ofTree tree workingDir vars home) start.ancestors walked ∧
      (layers = walked ∨ ∃ layer, layers = walked ++ [layer] ∧
        IsFileOf (.ofTree tree workingDir vars home) home layer) ∧
      (Path.dots ∉ start.names → Distinct tree workingDir walked)) ∧
    (Path.dots ∉ start.names → Path.dots ∉ home.names → Distinct tree workingDir layers) ∧
    ∃ stack, Stack.discover (.ofTree tree workingDir vars home) start = .ok stack ∧
      ∀ layer ∈ layers,
        (rulesOf tree workingDir stack layer).map SourcedEntry.entry =
          (List.replicate (ofSameFile tree workingDir layers layer).length
            layer.config.rules).flatten ∧
        (Path.dots ∉ start.names → Path.dots ∉ home.names →
          rulesOf tree workingDir stack layer =
            layer.config.rules.map fun entry => ⟨entry, layer.path⟩) := by
  obtain ⟨found, hcascade⟩ := exists_cascade (.ofTree tree workingDir vars home) start
  obtain rfl : found = .ok layers := hcascade.discover_eq.symm.trans h
  have hdirs : ∀ layer ∈ layers, ∃ dir : Path, dir.IsAbsolute ∧
      IsFileOf (.ofTree tree workingDir vars home) dir layer := by
    intro layer hlayer
    obtain ⟨dir, hdir | rfl, hfile⟩ := hcascade.exists_dir layer hlayer
    · exact ⟨dir, (hstart.of_mem_ancestors hdir).1, hfile⟩
    · exact ⟨_, hhome, hfile⟩
  refine ⟨fun layer hlayer => ?_, ?_, fun hdots => hcascade.distinct hstart hdots hhome,
    Stack.ofLayers layers, ?_, fun layer hlayer => ⟨?_, fun hdots hhomeDots => ?_⟩⟩
  · obtain ⟨dir, hdir, hfile⟩ := hdirs layer hlayer
    exact hfile.fileOf?_eq hdir
  · obtain ⟨walked, walk, hlayers⟩ := hcascade.exists_walk
    refine ⟨walked, walk, hlayers.imp_right ?_, fun hdots => walk.distinct hstart hdots⟩
    rintro ⟨layer, happend, hfile, -⟩
    exact ⟨layer, happend, hfile⟩
  · rw [Stack.discover, h]
    rfl
  · -- the layers from one file all declare the same rules
    have hsame : (ofSameFile tree workingDir layers layer).map (fun other => other.config.rules) =
        List.replicate (ofSameFile tree workingDir layers layer).length layer.config.rules := by
      refine List.eq_replicate_iff.mpr ⟨List.length_map _, fun rules hrules => ?_⟩
      obtain ⟨other, hother, rfl⟩ := List.mem_map.mp hrules
      obtain ⟨hmem, hfileOf⟩ := List.mem_filter.mp hother
      obtain ⟨_, -, hfile⟩ := hdirs layer hlayer
      obtain ⟨_, -, hfile'⟩ := hdirs other hmem
      rw [config_eq_of_fileOf?_eq hfile hfile' (of_decide_eq_true hfileOf)]
    rw [Stack.rulesOf_ofLayers, ← hsame, Stack.ofLayers, List.map_flatMap, List.flatMap_def]
    simp [Function.comp_def]
  · rw [Stack.rulesOf_ofLayers,
      ofSameFile_of_distinct (hcascade.distinct hstart hdots hhome hhomeDots) hlayer]
    simp [Stack.ofLayers]

/-- A tree with a configuration file in a directory and one above, and an empty home directory. -/
def yard : Tree := .dir
  [("srv".toList, .dir
    [(Config.fileName, .file "[[rules]]\npattern = 'v([0-9]+)'\n".toUTF8),
      ("app".toList, .dir
        [(Config.fileName, .file "[[rules]]\npattern = 'job-([0-9]+)'\n".toUTF8)])]),
    ("home".toList, .dir [])]

/-- Single dots make no difference: the file in the home directory is known, and no rule is merged
twice. -/
theorem discover_finds_yard_once :
    Path.IsAbsolute "/srv/./app/".toList ∧ Path.IsAbsolute "/./srv".toList ∧
    ∃ layers stack,
      discover (.ofTree yard [] [] "/./srv".toList) "/srv/./app/".toList = .ok layers ∧
      layers.map Layer.path = ["/srv/./app/.pathreduce.toml", "/srv/.pathreduce.toml"] ∧
      Distinct yard [] layers ∧
      Stack.discover (.ofTree yard [] [] "/./srv".toList) "/srv/./app/".toList = .ok stack ∧
      ∀ layer ∈ layers, rulesOf yard [] stack layer =
        layer.config.rules.map fun entry => ⟨entry, layer.path⟩ := by
  obtain ⟨layers, hlayers, hpaths⟩ := map_eq_ok.mp (show
    (discover (.ofTree yard [] [] "/./srv".toList) "/srv/./app/".toList).map (List.map Layer.path) =
      .ok ["/srv/./app/.pathreduce.toml", "/srv/.pathreduce.toml"] by decide +kernel)
  have hstart : Path.IsAbsolute "/srv/./app/".toList := by decide
  have hhome : Path.IsAbsolute "/./srv".toList := by decide
  have hdots : Path.dots ∉ Path.names "/srv/./app/".toList := by decide
  have hhomeDots : Path.dots ∉ Path.names "/./srv".toList := by decide
  obtain ⟨-, -, hdistinct, stack, hstack, hrules⟩ := discover_finds_files_once hstart hhome hlayers
  exact ⟨hstart, hhome, layers, stack, hlayers, hpaths, hdistinct hdots hhomeDots, hstack,
    fun layer hlayer => (hrules layer hlayer).2 hdots hhomeDots⟩

/-- Two dots in the start, or in the home directory, lead to a file twice. The directories are
there, and a rule that is declared once is merged twice. -/
theorem discover_finds_yard_twice :
    (yard.resolve? [] "/srv/app/..".toList = some ["srv".toList] ∧
      yard.resolve? [] "/home".toList = some ["home".toList] ∧
      (discover (.ofTree yard [] [] "/home".toList) "/srv/app/..".toList).map (List.map Layer.path) =
        .ok ["/srv/app/../.pathreduce.toml", "/srv/app/.pathreduce.toml",
          "/srv/.pathreduce.toml"] ∧
      fileOf? yard [] "/srv/app/../.pathreduce.toml" = some ["srv".toList, Config.fileName] ∧
      fileOf? yard [] "/srv/.pathreduce.toml" = some ["srv".toList, Config.fileName] ∧
      (Stack.discover (.ofTree yard [] [] "/home".toList) "/srv/app/..".toList).map
          (fun stack => stack.rules.map fun sourced => sourced.entry.pattern) =
        .ok ["v([0-9]+)", "job-([0-9]+)", "v([0-9]+)"]) ∧
    yard.resolve? [] "/srv".toList = some ["srv".toList] ∧
      yard.resolve? [] "/home/../srv".toList = some ["srv".toList] ∧
      (discover (.ofTree yard [] [] "/home/../srv".toList) "/srv".toList).map (List.map Layer.path) =
        .ok ["/srv/.pathreduce.toml", "/home/../srv/.pathreduce.toml"] ∧
      fileOf? yard [] "/home/../srv/.pathreduce.toml" = some ["srv".toList, Config.fileName] := by
  decide +kernel

end Layer

end StablePath
