/-!
Paths as texts.

A path is cut into segments at its slashes. Empty segments and single dots stand for nothing, except
for the slash or the dot that a path begins with. Nothing here asks what is on the disk: two dots
are a name like any other.
-/

namespace StablePath.Files

abbrev Path := List Char

namespace Path

/-- What a path begins with that is no name: a slash, a single dot, or nothing. -/
def lead : Path → List Char
  | '/' :: _ => ['/']
  | ['.'] => ['.']
  | '.' :: '/' :: _ => ['.']
  | _ => []

/-- The pieces between slashes, at least one. -/
def segments : List Char → List (List Char)
  | [] => [[]]
  | c :: rest =>
    if c = '/' then [] :: segments rest
    else match segments rest with
      | first :: more => (c :: first) :: more
      | [] => [[c]]

def isIdle (segment : List Char) : Bool := segment = [] || segment = ['.']

def body (path : Path) : List (List Char) := segments (path.drop (lead path).length)

/-- The names in a path, in order. -/
def names (path : Path) : List (List Char) := (body path).filter fun segment => !isIdle segment

/-- Whether two paths have the same names and begin alike. -/
def same (a b : Path) : Bool := lead a == lead b && names a == names b

/-- The path without its last name, if it has one. What stands for nothing at the new end goes
too. -/
def parent? (path : Path) : Option Path :=
  match (body path).reverse.dropWhile isIdle with
  | _ :: before =>
    some (lead path ++ ['/'].intercalate (before.dropWhile isIdle).reverse)
  | [] => if lead path = ['.'] then some [] else none

/-- The path of something in a directory. A path that begins with a slash stays as it is. -/
def join (dir name : Path) : Path :=
  if name.head? = some '/' then name
  else if dir.isEmpty || dir.getLast? = some '/' then dir ++ name
  else dir ++ '/' :: name

/-- A path, its parent, the parent of that, and so on, at most so many. -/
def ancestorsWithin : Nat → Path → List Path
  | 0, _ => []
  | fuel + 1, path =>
    path :: match parent? path with
      | some up => ancestorsWithin fuel up
      | none => []

/-- A path and all the parents above it. Each is shorter than the one before. -/
def ancestors (path : Path) : List Path := ancestorsWithin (path.length + 1) path

end Path

end StablePath.Files
