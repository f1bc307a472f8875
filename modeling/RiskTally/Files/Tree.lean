import RiskTally.Export.Table
import RiskTally.Files.Route

/-!
# File trees

Files and folders under a root. Paths begin in the working folder, which stands under
the root and whose own name is not known.

## Main results

* `FileTree.follow_append`: a route is followed piece by piece.
* `FileTree.child?_put`: what is put under a name changes nothing under another.
-/

namespace RiskTally

/-- A file with its contents, or a folder with its entries by name. -/
inductive FileTree where
  | file (contents : Bytes)
  | folder (entries : List (Text × FileTree))

/-- The names of the folders from the root on, and last the name of a folder or file. -/
abbrev Location := List Text

/-- A way down from the root, the last step first: each name with what stands under it. -/
abbrev Trail := List (Text × Option FileTree)

/-- The names on a trail. -/
def Trail.location (trail : Trail) : Location :=
  (trail.map Prod.fst).reverse

namespace FileTree

/-- A root with the working folder in it and nothing else. -/
def empty : FileTree :=
  folder [([], folder [])]

/-- The tree is a folder. -/
def isFolder : FileTree → Bool
  | folder _ => true
  | file _ => false

/-- What stands under a name. -/
def child? : FileTree → Text → Option FileTree
  | folder entries, name => Keyed.get? entries name
  | file _, _ => none

/-! ## Finding -/

/-- What a trail leads to. -/
def atEnd? (root : FileTree) : Trail → Option FileTree
  | [] => some root
  | (_, found) :: _ => found

/-- The trail that goes on along names, each of which is met in a folder. -/
def follow (root : FileTree) : Trail → List Text → Except WriteFault Trail
  | trail, [] => .ok trail
  | trail, name :: names =>
    match root.atEnd? trail with
    | none => .error .notFound
    | some (file _) => .error .notFolder
    | some (folder entries) =>
      if Route.stays name then root.follow trail names
      else if Route.rises name then root.follow trail.tail names
      else if Route.isLongName name then .error .nameTooLong
      else root.follow ((name, Keyed.get? entries name) :: trail) names

/-- Where a route begins. The working folder stands under the empty name, which leads
into it from no folder. -/
def origin (root : FileTree) (route : Route) : Trail :=
  if route.fromRoot then [] else [([], root.child? [])]

/-- The trail of a route. -/
def resolve (root : FileTree) (route : Route) : Except WriteFault Trail :=
  if Route.isLongPath route.path then .error .nameTooLong
  else root.follow (root.origin route) route

/-- The trail of a path. -/
def find (root : FileTree) (path : Text) : Except WriteFault Trail :=
  if path = [] then .error .notFound else root.resolve (Route.ofPath path)

/-- What a path leads to. -/
def at? (root : FileTree) (path : Text) : Option FileTree :=
  match root.find path with
  | .ok trail => root.atEnd? trail
  | .error _ => none

/-- The contents of the file at a path. -/
def file? (root : FileTree) (path : Text) : Option Bytes :=
  match root.at? path with
  | some (file contents) => some contents
  | _ => none

/-- The files of the folder at a path. A file is left out if its own path is too long. -/
def folder? (root : FileTree) (path : Text) : Option (List (Text × Bytes)) :=
  match root.at? path with
  | some (folder entries) =>
    some (entries.filterMap fun (name, tree) =>
      match tree with
      | file contents =>
        if Route.isLongPath (Route.below path name) then none else some (name, contents)
      | folder _ => none)
  | _ => none

theorem follow_append (root : FileTree) (trail : Trail) (before after : List Text) :
    root.follow trail (before ++ after) =
      (root.follow trail before).bind fun trail => root.follow trail after := by
  induction before generalizing trail with
  | nil => rfl
  | cons name before ih =>
    simp only [List.cons_append, follow]
    split
    · rfl
    · rfl
    · split
      · exact ih _
      · split
        · exact ih _
        · split
          · rfl
          · exact ih _

/-! ## Changing -/

/-- The tree with another one at a location. No file gives way to a folder. -/
def put (new : FileTree) : FileTree → Location → FileTree
  | _, [] => new
  | folder entries, name :: names =>
    let old := (Keyed.get? entries name).getD (folder [])
    folder (Keyed.put name (put new old names) entries)
  | file contents, _ :: _ => file contents

/-- The tree without what stands at a location. -/
def erase : FileTree → Location → FileTree
  | folder entries, [name] => folder (entries.filter fun entry => entry.1 != name)
  | folder entries, name :: names =>
    match Keyed.get? entries name with
    | some tree => folder (Keyed.put name (erase tree names) entries)
    | none => folder entries
  | tree, _ => tree

theorem child?_put (new : FileTree) (entries : List (Text × FileTree)) (name other : Text) :
    (put new (folder entries) [name]).child? other =
      if other = name then some new else (folder entries).child? other :=
  Keyed.get?_put name other new entries

end FileTree

end RiskTally
