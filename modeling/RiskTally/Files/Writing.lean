import RiskTally.Files.Tree

/-!
# Writing and removing files

A file is written where its path leads, once the folders on the way to it are made. A
folder is made as near to the file as its own path allows, and what is missing around it
before. Only a file is removed.

The examples at the end fix which of several faults is told, and what is removed.
-/

namespace RiskTally.FileTree

/-! ## Making folders -/

/-- The tree with a folder at the end of a route, where there is nothing yet. -/
def makeFolder (root : FileTree) (route : Route) : Except WriteFault FileTree :=
  match root.resolve route with
  | .ok trail =>
    match root.atEnd? trail with
    | some _ => .error .fileExists
    | none => .ok (put (folder []) root trail.location)
  | .error fault => .error fault

/-- There is a folder at the end of a route. -/
def hasFolder (root : FileTree) (route : Route) : Bool :=
  match root.resolve route with
  | .ok trail => ((root.atEnd? trail).map isFolder).getD false
  | .error _ => false

/-- The tree with a folder at the end of a route, and why there is none if it has none. -/
def ensureFolder (root : FileTree) (route : Route) : FileTree × Option WriteFault :=
  match root.makeFolder route with
  | .ok root => (root, none)
  | .error fault => (root, if root.hasFolder route then none else some fault)

/-- The tree with a folder at the end of a route, whose last name comes first, and why
there is none if it has none. If the folder cannot be made because the one around it is
missing, that one is made before. -/
def makeFolders (root : FileTree) : (names : List Text) → FileTree × Option WriteFault
  | [] => (root, none)
  | name :: names =>
    if name = [] ∨ name = ['.'] ∧ names ≠ [] then root.makeFolders names
    else
      let route := (name :: names).reverse
      match root.makeFolder route with
      | .error .notFound =>
        match root.makeFolders names with
        | (root, none) => root.ensureFolder route
        | (root, some fault) => (root, some fault)
      | _ => root.ensureFolder route

/-- The tree with a folder at a path, or with as much of it as can be made. -/
def addFolder (root : FileTree) (path : Text) : FileTree :=
  (root.makeFolders (Route.ofPath path).reverse).1

/-! ## Writing -/

/-- The names before the last one that leads on, the last of them first. -/
def namesAbove (route : Route) : List Text :=
  (route.reverse.dropWhile Route.stays).tail

/-- Where a file can be written at the end of a route. A slash after the last name asks
for a folder. -/
def writable (root : FileTree) (route : Route) : Except WriteFault Location :=
  if Route.isLongPath route.path then .error .nameTooLong
  else
    match route.reverse.dropWhile fun name => name == [] with
    | [] => .error .isFolder
    | name :: names =>
      match root.follow (root.origin route) (names.reverse ++ [[]]) with
      | .error fault => .error fault
      | .ok trail =>
        if Route.stays name || Route.rises name || route.getLast? == some [] then .error .isFolder
        else
          match root.follow trail [name] with
          | .error fault => .error fault
          | .ok trail =>
            if ((root.atEnd? trail).map isFolder).getD false then .error .isFolder
            else .ok trail.location

/-- The tree with the folders on the way to a path, and where a file can be written at
that path. -/
def place (root : FileTree) (path : Text) : FileTree × Except WriteFault Location :=
  let route := Route.ofPath path
  if path = [] then (root, .error .notFound)
  else
    match root.makeFolders (namesAbove route) with
    | (root, none) => (root, root.writable route)
    | (root, some fault) => (root, .error fault)

/-- The tree with a file at a path, if one can be written there. -/
def write (root : FileTree) (path : Text) (contents : Bytes) : FileTree :=
  match root.place path with
  | (root, .ok location) => put (file contents) root location
  | (root, .error _) => root

/-- Why a file cannot be written at a path, if it cannot. -/
def writeFault? (root : FileTree) (path : Text) : Option WriteFault :=
  match (root.place path).2 with
  | .ok _ => none
  | .error fault => some fault

/-! ## Removing -/

/-- The tree without the file at a path, if there is one. A folder stays. -/
def remove (root : FileTree) (path : Text) : FileTree :=
  match root.find path with
  | .ok trail =>
    match root.atEnd? trail with
    | some (file _) => root.erase trail.location
    | _ => root
  | .error _ => root

example : (empty.write "a/b/../c".toList [1]).file? "./a//c".toList = some [1] := by
  decide +kernel
example : ["f", "f/x", "f/x/y", "g/../f/x/y", "g/", "g/.", "f/."].map
    (fun path => (empty.write "f".toList []).writeFault? path.toList) =
    [none, some .fileExists, some .notFolder, some .fileExists, some .isFolder, some .notFound,
      some .notFolder] := by decide +kernel
example : ["f", "f/b", "f/./b", "f/b/", "f/."].map
    (fun path => ((empty.write "f/b".toList [1]).remove path.toList).file? "f/b".toList) =
    [some [1], none, none, some [1], some [1]] := by decide +kernel

end RiskTally.FileTree
