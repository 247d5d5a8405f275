import StablePath.Config.Reader
import StablePath.Files.Tree

/-!
The cascade of configuration files.

The files that apply in a directory are looked for in it and in all directories above, up to one
that calls itself the root, and last in the home directory.
-/

namespace StablePath

open Files (Path Finding)

/-- The surroundings of a program: the files it can find, its environment variables and its home
directory. -/
structure Surroundings where
  find : Path → Finding
  valueOf : String → Option String
  home : Path

namespace Surroundings

/-- The surroundings in a tree of files. -/
def ofTree (tree : Files.Tree) (workingDir : Files.Location) (vars : List (String × String))
    (home : Path) : Surroundings where
  find := tree.find workingDir
  valueOf name := vars.lookup name
  home := home

/-- Whether a variable is set to something other than no. -/
def isOn (around : Surroundings) (name : String) : Bool :=
  match around.valueOf name with
  | none => false
  | some value =>
    let lower := value.toLower
    lower != "" && lower != "0" && lower != "false" && lower != "no"

end Surroundings

namespace Config

def fileName : Path := ".pathreduce.toml".toList

/-- Reads a configuration file. -/
def load (around : Surroundings) (path : Path) : Except Fault Config :=
  match around.find path with
  | .missing => .error (.fileMissing (String.ofList path))
  | .unreadable => .error (.fileUnreadable (String.ofList path))
  | .text text => read (String.ofList path) text

end Config

namespace Layer

/-- The configuration file of a directory, if there is one. -/
def inDir? (around : Surroundings) (dir : Path) : Except Fault (Option Layer) :=
  let path := dir.join Config.fileName
  if around.find path = .missing then .ok none
  else do return some ⟨String.ofList path, ← Config.load around path⟩

/-- The configuration files of directories, up to the first that is the root. -/
def climb (around : Surroundings) : List Path → Except Fault (List Layer)
  | [] => .ok []
  | dir :: dirs => do
    match ← inDir? around dir with
    | none => climb around dirs
    | some layer =>
      if layer.config.root then return [layer] else return layer :: (← climb around dirs)

/-- Whether a layer switches off the file in the home directory. -/
def switchesOffHome (around : Surroundings) (layer : Layer) : Bool :=
  layer.config.homeSwitch.any around.isOn

/-- The layers that apply in a directory, the nearest first. The file in the home directory is the
last of them, unless it is switched off or one of them already. -/
def discover (around : Surroundings) (start : Path) : Except Fault (List Layer) := do
  let layers ← climb around start.ancestors
  if layers.any (switchesOffHome around) then return layers
  match ← inDir? around around.home with
  | none => return layers
  | some layer =>
    if layers.any fun other => Path.same other.path.toList layer.path.toList then return layers
    else return layers ++ [layer]

end Layer

namespace Stack

/-- The merged configuration that applies in a directory. -/
def discover (around : Surroundings) (start : Path) : Except Fault Stack :=
  (Layer.discover around start).map ofLayers

/-- The configuration of one file alone. -/
def load (around : Surroundings) (path : Path) : Except Fault Stack := do
  return ofLayers [⟨String.ofList path, ← Config.load around path⟩]

end Stack

end StablePath
