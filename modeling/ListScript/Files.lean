/-!
# Files

A snapshot of the files a session can read. Every entry has an absolute path without detours, and
a name is looked up step by step from the root or from the working directory. There are no links
between entries, and whatever stands at a path may be entered and read.

Rules for a name:
* It is cut at its slashes. Empty parts and `.` lead nowhere, `..` leads to the parent, and the
  parent of the root is the root.
* Each step starts at a directory. A slash at the end asks for a directory too.
* The empty name and a name of 4096 bytes or more lead to nothing.
* The working directory, the directories above it and the root always exist.
-/

namespace ListScript

/-- An absolute path without detours, as its parts from the root. -/
abbrev Path := List String

namespace Path

/-- The text of a path. -/
def toText (path : Path) : String :=
  "/" ++ "/".intercalate path

/-- The order of paths: part by part, and a path before those below it. -/
def before (a b : Path) : Bool :=
  match a, b with
  | _, [] => false
  | [], _ :: _ => true
  | x :: xs, y :: ys => x < y || (x == y && before xs ys)

end Path

/-- A file or a directory. The text of a file is missing when its bytes are not UTF-8. -/
inductive Entry where
  | file (text : Option String)
  | directory
deriving DecidableEq, Repr

/-- Why nothing could be read under a name. -/
inductive AccessFault where
  | notFound
  | notDirectory
  | isDirectory
  | notText
deriving DecidableEq, Repr

/-- The system's wording of a fault. -/
def AccessFault.message : AccessFault → String
  | .notFound => "No such file or directory (os error 2)"
  | .notDirectory => "Not a directory (os error 20)"
  | .isDirectory => "Is a directory (os error 21)"
  | .notText => "stream did not contain valid UTF-8"

/-- The entries of a file system, and the directory that relative names start from. -/
structure FileTree where
  entries : List (Path × Entry) := []
  workingDirectory : Path := []
deriving DecidableEq, Repr

namespace FileTree

/-- What stands at a path. -/
def entry? (tree : FileTree) (path : Path) : Option Entry :=
  if path.isPrefixOf tree.workingDirectory then some .directory
  else tree.entries.lookup path

/-- Puts an entry at a path, in place of an older one. -/
def put (tree : FileTree) (path : Path) (entry : Entry) : FileTree :=
  { tree with entries := (path, entry) :: tree.entries.filter fun old => old.1 != path }

/-- Removes what stands at a path. -/
def remove (tree : FileTree) (path : Path) : FileTree :=
  { tree with entries := tree.entries.filter fun old => old.1 != path }

/-- The parts of a name between its slashes, where `part` holds the current part in reverse. -/
def cut (part : List Char) : List Char → List String
  | [] => [String.ofList part.reverse]
  | c :: rest =>
    if c = '/' then String.ofList part.reverse :: cut [] rest else cut (c :: part) rest

/-- The parts of a name between its slashes. -/
def parts (name : String) : List String :=
  cut [] name.toList

/-- A part that leads nowhere. -/
def idle (part : String) : Bool :=
  part == "" || part == "."

/-- The parts of a name that lead somewhere. -/
def steps (name : String) : List String :=
  (parts name).filter fun part => !idle part

/-- Whether a name starts at the root. -/
def isAbsolute (name : String) : Bool :=
  name.toList.head? = some '/'

/-- Whether a name asks for a directory by its end. -/
def asksDirectory (name : String) : Bool :=
  (parts name).getLast?.any idle

/-- The directory that a name starts from. -/
def start (tree : FileTree) (name : String) : Path :=
  if isAbsolute name then [] else tree.workingDirectory

/-- The path one step further: `..` leads to the parent and any other part below. -/
def step (path : Path) (part : String) : Path :=
  if part = ".." then path.dropLast else path ++ [part]

/-- The path a name spells, without looking at what exists. -/
def spelledPath (tree : FileTree) (name : String) : Path :=
  (steps name).foldl step (tree.start name)

/-- Goes from a path through some parts. -/
def walk (tree : FileTree) (path : Path) : List String → Except AccessFault Path
  | [] => .ok path
  | part :: rest =>
    match tree.entry? path with
    | some .directory => tree.walk (step path part) rest
    | some (.file _) => .error .notDirectory
    | none => .error .notFound

/-- Names of this many bytes or more are refused. -/
def nameLimit : Nat := 4096

/-- The path and the entry that a name leads to. -/
def locate (tree : FileTree) (name : String) : Except AccessFault (Path × Entry) :=
  if name.isEmpty || nameLimit ≤ name.utf8ByteSize then .error .notFound
  else do
    let path ← tree.walk (tree.start name) (steps name)
    match tree.entry? path with
    | none => .error .notFound
    | some .directory => .ok (path, .directory)
    | some (.file text) =>
      if asksDirectory name then .error .notDirectory else .ok (path, .file text)

/-- The path of the regular file that a name leads to. -/
def filePath? (tree : FileTree) (name : String) : Option Path :=
  match tree.locate name with
  | .ok (path, .file _) => some path
  | _ => none

/-- The text of an entry. -/
def textOf : Entry → Except AccessFault String
  | .file (some text) => .ok text
  | .file none => .error .notText
  | .directory => .error .isDirectory

/-- The text of the file that a name leads to. -/
def readText (tree : FileTree) (name : String) : Except AccessFault String := do
  let (_, entry) ← tree.locate name
  textOf entry

/-- The text of the file at a path. -/
def readPath (tree : FileTree) (path : Path) : Except AccessFault String :=
  match tree.entry? path with
  | some entry => textOf entry
  | none => .error .notFound

/-- Makes a directory where nothing stands. -/
def makeDirectory (tree : FileTree) (path : Path) : FileTree :=
  if (tree.entry? path).isSome then tree else tree.put path .directory

/-- Makes the directories that the parts of a name pass through on their way from a path. -/
def makeWay (tree : FileTree) (path : Path) : List String → FileTree
  | [] => tree
  | part :: rest => (tree.makeDirectory path).makeWay (step path part) rest

/-- Writes an entry under a name, and makes the directories that the name passes through. -/
def write (tree : FileTree) (name : String) (entry : Entry) : FileTree :=
  (tree.makeWay (tree.start name) (steps name)).put (tree.spelledPath name) entry

/-- Deletes what stands under a name. -/
def delete (tree : FileTree) (name : String) : FileTree :=
  tree.remove (tree.spelledPath name)

/-- The paths of the regular files. -/
def files (tree : FileTree) : List Path :=
  tree.entries.filterMap fun (path, entry) =>
    match entry with
    | .file _ => some path
    | .directory => none

/-- A name below a directory. An absolute name stands for itself. -/
def join (directory name : String) : String :=
  if isAbsolute name || directory.isEmpty then name
  else if directory.toList.getLast? = some '/' then directory ++ name
  else directory ++ "/" ++ name

/-- The file that a name leads to stands at the path that it leads to. -/
theorem entry?_of_locate {tree : FileTree} {name : String} {path : Path} {text : Option String}
    (located : tree.locate name = .ok (path, .file text)) :
    tree.entry? path = some (.file text) := by
  unfold locate at located
  split at located
  · cases located
  · cases walked : tree.walk (tree.start name) (steps name) with
    | error fault =>
      rw [walked] at located
      cases located
    | ok target =>
      simp only [walked, bind, Except.bind] at located
      split at located
      · cases located
      · cases located
      · next stands =>
        split at located
        · cases located
        · cases located
          exact stands

theorem mem_files_of_entry? {tree : FileTree} {path : Path} {text : Option String}
    (stands : tree.entry? path = some (.file text)) : path ∈ tree.files := by
  unfold entry? at stands
  split at stands
  · cases stands
  · obtain ⟨before, after, split, -⟩ := List.lookup_eq_some_iff.mp stands
    exact List.mem_filterMap.mpr ⟨(path, .file text), by simp [split], rfl⟩

end FileTree

/-- Slashes and dots lead nowhere, and a slash at the end does not lead to a file. -/
example :
    let tree := FileTree.write {} "a/x" (.file (some "1"))
    tree.filePath? "a//./../a/x" = some ["a", "x"] ∧ tree.filePath? "a/x/" = none := by
  decide +kernel

end ListScript
