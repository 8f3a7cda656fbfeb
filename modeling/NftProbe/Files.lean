import NftProbe.Table

/-!
# An in-memory file system

The program reads artifacts and config files and writes reports and config templates. It does
so through a `FileSystem`: a tree of directories and text files below the working directory,
addressed by relative paths. The operations fail the way an operating system fails them: a
missing entry, an entry that exists, a directory where a file is wanted, and a file where a
directory is wanted.

A path is split at `/`; empty and `.` components are dropped. A `..` goes up one level, but
only through a directory that exists, as the operating system walks it: `file/..` is not a
directory, and `missing/..` does not exist.

The working tree is all the program is given. Outside it, the root directory and the
directories above the working directory exist and start out empty: an absolute path such as
`/a.bin`, or a path such as `../a.bin` that leaves the working directory, names nothing until
the run creates it there.
-/

set_option autoImplicit false

namespace NftProbe

/-- The failures of file operations. -/
inductive FileError
  | notFound
  | alreadyExists
  | isDirectory
  | notDirectory
deriving DecidableEq, Repr

/-- The text of a file error. -/
def FileError.message : FileError → String
  | .notFound => "No such file or directory (os error 2)"
  | .alreadyExists => "File exists (os error 17)"
  | .isDirectory => "Is a directory (os error 21)"
  | .notDirectory => "Not a directory (os error 20)"

/-- An entry of the file system. -/
inductive FileNode
  | file (content : String)
  | directory
deriving DecidableEq, Repr

/-- The entries below the working directory, keyed by their path components. -/
structure FileSystem where
  entries : Table (List String) FileNode := []

namespace FileSystem

/-- The first component of an absolute path: the root directory. Splitting at `/` never
yields it as a component, so it cannot be confused with a name. -/
def rootName : String := "/"

/-- The components of a path: split at `/`, with empty and `.` components dropped, and
`rootName` first when the path is absolute. A `..` is kept, since it can only be followed
through a directory that exists. -/
def components (path : String) : List String :=
  let parts := (path.splitOn "/").filter fun part => part != "" && part != "."
  if path.startsWith "/" then rootName :: parts else parts

/-- Whether components name a directory that exists without being created: the working
directory, the root, or a directory above the working directory. -/
def isGivenDirectory (parts : List String) : Bool :=
  parts.isEmpty || parts == [rootName] || parts.all (· == "..")

/-- The location one level up. Above the working directory lie more directories; the root is
its own parent. -/
def up (here : List String) : List String :=
  if here == [rootName] then here
  else if here.all (· == "..") then here ++ [".."]
  else here.dropLast

/-- The entry at some normalised components. -/
def nodeAt (fs : FileSystem) (parts : List String) : Option FileNode :=
  if isGivenDirectory parts then some .directory else fs.entries.get? parts

/-- Walks from a directory through names and `..`: every name passed through must be a
directory that exists. The normalised location reached. -/
def walk (fs : FileSystem) : List String → List String → Except FileError (List String)
  | here, [] => .ok here
  | here, ".." :: rest => walk fs (up here) rest
  | here, name :: rest =>
    match fs.nodeAt (here ++ [name]) with
    | some .directory => walk fs (here ++ [name]) rest
    | some (.file _) => .error .notDirectory
    | none => .error .notFound

/-- What a path names once the directories on the way are walked. -/
inductive Target
  /-- A directory that exists, named by `..`, by the root or by no name at all. -/
  | directory (parts : List String)
  /-- The entry `name` in an existing directory; it may or may not exist. -/
  | entry (parent : List String) (name : String)

/-- The target of components. -/
def target (fs : FileSystem) (parts : List String) : Except FileError Target :=
  match parts.getLast? with
  | none => .ok (.directory [])
  | some last => do
    let parent ← fs.walk [] parts.dropLast
    if last == ".." then return .directory (up parent)
    else if last == rootName then return .directory [rootName]
    else return .entry parent last

/-- The entry at a path, after walking the directories on the way. A path that ends in `/`
names a directory, so a file there is refused. -/
def lookup (fs : FileSystem) (path : String) : Except FileError FileNode := do
  if path.isEmpty then throw .notFound
  match ← fs.target (components path) with
  | .directory _ => pure .directory
  | .entry parent name =>
    match fs.nodeAt (parent ++ [name]) with
    | some (.file content) =>
      if path.endsWith "/" then throw .notDirectory else pure (.file content)
    | some .directory => pure .directory
    | none => throw .notFound

/-- Whether anything exists at a path. -/
def exists? (fs : FileSystem) (path : String) : Bool :=
  (fs.lookup path).toOption.isSome

/-- Whether a directory exists at a path. -/
def isDir (fs : FileSystem) (path : String) : Bool :=
  match fs.lookup path with
  | .ok .directory => true
  | _ => false

/-- The text of a file. -/
def read (fs : FileSystem) (path : String) : Except FileError String := do
  match ← fs.lookup path with
  | .file content => pure content
  | .directory => throw .isDirectory

/-- Opens a file or directory for reading; reading a directory fails later. -/
def openRead (fs : FileSystem) (path : String) : Except FileError FileNode :=
  fs.lookup path

/-- Whether the components name a directory. -/
def isDirAt (fs : FileSystem) (parts : List String) : Bool :=
  match fs.target parts with
  | .ok (.directory _) => true
  | .ok (.entry parent name) => fs.nodeAt (parent ++ [name]) == some .directory
  | .error _ => false

/-- Creates one directory whose parent exists. -/
def makeDir (fs : FileSystem) (parts : List String) : Except FileError FileSystem := do
  match ← fs.target parts with
  | .directory _ => throw .alreadyExists
  | .entry parent name =>
    match fs.nodeAt (parent ++ [name]) with
    | some _ => throw .alreadyExists
    | none => pure { entries := fs.entries.insert (parent ++ [name]) .directory }

/-- Creates the directory at `parts` and, when its parent is missing, the directories above
it first; `fuel` bounds the depth. A directory that exists already is left as it is, and any
other failure stands. -/
def createDirs : Nat → FileSystem → List String → Except FileError FileSystem
  | 0, fs, _ => .ok fs
  | fuel + 1, fs, parts =>
    if parts.isEmpty then .ok fs
    else
      let settle (fs : FileSystem) (error : FileError) : Except FileError FileSystem :=
        if fs.isDirAt parts then .ok fs else .error error
      match fs.makeDir parts with
      | .ok fs => .ok fs
      | .error .notFound => do
        let fs ← createDirs fuel fs parts.dropLast
        match fs.makeDir parts with
        | .ok fs => .ok fs
        | .error error => settle fs error
      | .error error => settle fs error

/-- Creates a directory and every missing directory above it. -/
def createDirAll (fs : FileSystem) (path : String) : Except FileError FileSystem :=
  let parts := components path
  createDirs parts.length fs parts

/-- Creates or truncates a file and writes `content` to it. A path that ends in `/` names a
directory, so no file is made there. -/
def write (fs : FileSystem) (path : String) (content : String) : Except FileError FileSystem := do
  if path.isEmpty then throw .notFound
  match ← fs.target (components path) with
  | .directory _ => throw .isDirectory
  | .entry parent name =>
    let parts := parent ++ [name]
    match fs.nodeAt parts with
    | some .directory => throw .isDirectory
    | some (.file _) =>
      if path.endsWith "/" then throw .notDirectory
      else pure { entries := fs.entries.insert parts (.file content) }
    | none =>
      if path.endsWith "/" then throw .isDirectory
      else pure { entries := fs.entries.insert parts (.file content) }

end FileSystem

end NftProbe
