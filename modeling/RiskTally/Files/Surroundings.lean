import RiskTally.Files.Writing

/-!
# Surroundings

What a run can see of the files around it: the files of a folder, the contents of a
file, whether a file could be written, and how deep the working folder stands.
-/

namespace RiskTally

/-- The answers of the files around a run. -/
structure Surroundings where
  /-- The names and contents of the files of a folder. -/
  folder? : Text → Option (List (Text × Bytes))
  /-- The contents of a file. -/
  file? : Text → Option Bytes
  /-- Why a file cannot be written at a path, if it cannot. The folders on the way to it
  are made. -/
  writeFault? : Text → Option WriteFault
  /-- How many folders stand around the working folder. -/
  depth : Nat

/-- What a run sees of a tree. The root alone stands around the working folder. -/
def FileTree.surroundings (root : FileTree) : Surroundings where
  folder? := root.folder?
  file? := root.file?
  writeFault? := root.writeFault?
  depth := 1

end RiskTally
