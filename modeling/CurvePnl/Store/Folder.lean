import CurvePnl.Store.File

/-! # Folders of files

A folder holds files under relative paths, whose directories exist with them. A path is followed
name by name: a dot stays where it is, two dots go up, and nothing is found below a file. Paths and
the names on them have a greatest length.
-/

namespace CurvePnl

/-- The files of a folder, by the names of their directories and their own. -/
structure Folder where
  files : List (List String × FileEntry)
  deriving Repr, DecidableEq

namespace Folder

/-- The names that a path goes through; nothing between two slashes, or after the last, is a
dot. -/
def names (path : String) : List String :=
  (path.splitOn "/").map fun name => if name = "" then "." else name

def ofFiles (files : List (String × FileEntry)) : Folder :=
  ⟨files.map fun (path, entry) => (names path, entry)⟩

/-- What stands at a list of names. A directory exists if a file is in it. -/
def entryAt (f : Folder) (location : List String) : FileEntry :=
  match f.files.lookup location with
  | some entry => entry
  | none =>
    if location.isEmpty || f.files.any fun (names, _) => location.isPrefixOf names then .directory
    else .missing

/-- The most bytes of a name. -/
def longestName : Nat := 255

/-- The most bytes of a path. -/
def longestPath : Nat := 4095

/-- Follows names from the directory at `location`, or from `above` directories over the folder,
where only the way up is known. -/
def follow (f : Folder) (above : Nat) (location : List String) : List String → FileEntry
  | [] => if above = 0 then f.entryAt location else .directory
  | name :: rest =>
    if name = "." then follow f above location rest
    else if name = ".." then
      if location.isEmpty then follow f (above + 1) [] rest
      else follow f above location.dropLast rest
    else if longestName < name.utf8ByteSize then .absent .tooLong
    else if above ≠ 0 then .missing
    else
      let found := f.entryAt (location ++ [name])
      if rest.isEmpty then found
      else if found = .directory then follow f 0 (location ++ [name]) rest
      else if found.isMissing then .missing
      else .absent .belowFile

/-- What stands at a path. A path from the root of all directories leaves the folder. -/
def lookup (f : Folder) (path : String) : FileEntry :=
  if path.contains '\x00' then .absent .holdsNul
  else if longestPath < path.utf8ByteSize then .absent .tooLong
  else f.follow (if path.startsWith "/" then 1 else 0) [] (names path)

end Folder

end CurvePnl
