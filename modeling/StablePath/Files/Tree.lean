import StablePath.Files.Path

/-!
Trees of files and directories.
-/

namespace StablePath.Files

inductive Tree
  | file (content : ByteArray)
  | dir (children : List (List Char × Tree))

/-- Where something is in a tree: the names to follow from the root. -/
abbrev Location := List (List Char)

namespace Tree

/-- What is at a location. -/
def at? : Location → Tree → Option Tree
  | [], tree => some tree
  | name :: names, dir children => (children.lookup name) >>= at? names
  | _ :: _, file _ => none

/-- Follows one segment of a path from a directory: two dots lead up, and the root is above
itself. -/
def step? (root : Tree) (here : Location) (segment : List Char) : Option Location :=
  match root.at? here with
  | some (dir children) =>
    if Path.isIdle segment then some here
    else if segment = ['.', '.'] then some here.dropLast
    else if (children.lookup segment).isSome then some (here ++ [segment])
    else none
  | _ => none

/-- The location that a path leads to from a working directory, if there is something. -/
def resolve? (root : Tree) (workingDir : Location) (path : Path) : Option Location :=
  if path.isEmpty then none
  else (Path.segments path).foldlM (step? root) (if path.head? = some '/' then [] else workingDir)

/-! ### Making trees -/

/-- Changes what is at a location, where the directories on the way are made if they are
missing. -/
def modify (change : Option Tree → Tree) : Location → Option Tree → Tree
  | [], old => change old
  | name :: names, old =>
    let children := match old with
      | some (dir children) => children
      | _ => []
    let child := modify change names (children.lookup name)
    dir ((children.filter fun entry => entry.1 != name) ++ [(name, child)])

def makeDir (location : Location) (root : Tree) : Tree :=
  modify (fun
    | some (dir children) => dir children
    | _ => dir []) location (some root)

def writeFile (location : Location) (content : ByteArray) (root : Tree) : Tree :=
  modify (fun _ => file content) location (some root)

end Tree

/-- What a program finds when it looks for a file. -/
inductive Finding
  | missing
  /-- There is something, but it is no text. -/
  | unreadable
  | text (content : String)
  deriving DecidableEq, Repr

/-- What is found in a tree at a path. -/
def Tree.find (root : Tree) (workingDir : Location) (path : Path) : Finding :=
  match root.resolve? workingDir path >>= fun location => root.at? location with
  | none => .missing
  | some (.dir _) => .unreadable
  | some (.file content) =>
    match String.fromUTF8? content with
    | some text => .text text
    | none => .unreadable

end StablePath.Files
