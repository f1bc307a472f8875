import RiskTally.Text.Utf8

/-!
# Routes

A route is a path as it is written, cut at its slashes. An empty name and `.` stay in
the folder they are met in, and `..` leads to the folder above. The size of a name and
of a whole path is bounded.

## Main results

* `Route.path_ofPath`: a route is as good as its path.
-/

namespace RiskTally

/-- The names of a path, from the first on. -/
abbrev Route := List Text

namespace Route

/-- The route of a path. -/
def ofPath (path : Text) : Route :=
  path.splitOn '/'

/-- The path of a route. -/
def path (route : Route) : Text :=
  ['/'].intercalate route

theorem path_ofPath (path : Text) : (ofPath path).path = path :=
  List.intercalate_splitOn '/'

/-- The route begins at the root, and not in the working folder. -/
def fromRoot (route : Route) : Bool :=
  route.head? == some []

/-! ## Names -/

/-- The name stands for the folder that it is met in. -/
def stays (name : Text) : Bool :=
  name == [] || name == ['.']

/-- The name stands for the folder above. -/
def rises (name : Text) : Bool :=
  name == ['.', '.']

/-! ## Limits -/

/-- The most bytes that a name has. -/
def maxNameSize : Nat := 255

/-- The most bytes that a path has. -/
def maxPathSize : Nat := 4095

/-- No file and no folder has the name, for its length. -/
def isLongName (name : Text) : Bool :=
  maxNameSize < (Utf8.encode name).length

/-- The path leads nowhere, for its length. -/
def isLongPath (path : Text) : Bool :=
  maxPathSize < (Utf8.encode path).length

/-- The path of a name in the folder at a path. -/
def below (folder name : Text) : Text :=
  if folder.getLast? = some '/' then folder ++ name else folder ++ '/' :: name

example : ofPath "./a//b/".toList = [".", "a", "", "b", ""].map String.toList := by decide
example : below "a".toList "b".toList = below "a/".toList "b".toList := by decide

end Route

end RiskTally
