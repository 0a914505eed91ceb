import RadioBoard.Config

/-!
A tree of files, and the file that a path leads to.

A path is followed name by name: `.` stays, `..` goes up, and the root is its own parent. Only from a
directory does a path go on.
-/

namespace RadioBoard

structure FileTree where
  files : List (List String × ByteArray)
  directories : List (List String)

namespace FileTree

/-- The longest path that leads anywhere, in bytes. -/
def longestPath : Nat := 4095

/-- The names along a path. -/
def names (path : String) : List String :=
  (path.splitOn "/").filter fun name => name ≠ "" && name ≠ "."

/-- Where a name leads from a directory. -/
def step (place : List String) (name : String) : List String :=
  if name = ".." then place.dropLast else place ++ [name]

/-- Where a path leads if all that it passes are directories. -/
def target (path : String) : List String :=
  (names path).foldl step []

/-- The directories that a path passes, from the root on. -/
def passed (path : String) : List (List String) :=
  (List.range (names path).length).map fun n => ((names path).take n).foldl step []

/-- Files with the directories that their paths pass, and further directories. Of two files at one place
the later one counts. -/
def ofPaths (files : List (String × ByteArray)) (directories : List String) : FileTree where
  files := (files.map fun (path, contents) => (target path, contents)).reverse
  directories := [] :: files.flatMap (fun (path, _) => passed path) ++
    directories.flatMap fun path => target path :: passed path

/-- Where a path leads from a place. -/
def follow (t : FileTree) (place : List String) : List String → Option (List String)
  | [] => some place
  | name :: rest => if !t.directories.contains place then none else t.follow (step place name) rest

/-- Whether a path can only lead to a directory, by the way it ends. -/
def endsInDirectory (path : String) : Bool :=
  ["", ".", ".."].contains ((path.splitOn "/").getLastD "")

/-- The regular file at a path. -/
def lookUp (t : FileTree) (path : String) : Option ByteArray := do
  guard (path.utf8ByteSize ≤ longestPath)
  let place ← t.follow [] (names path)
  if endsInDirectory path || t.directories.contains place then none
  else t.files.lookup place

def toFiles (t : FileTree) : Files := fun path => (t.lookUp path).map .ok

end FileTree
end RadioBoard
