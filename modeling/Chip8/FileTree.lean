import Chip8.Failure

/-!
# Files

The files that a command can see: a tree of directories and files with a working directory in it.
A path is followed component by component, and every component but the last has to lead to a
directory.
-/

namespace Chip8

/-- What reading a file yields. -/
inductive FileContents where
  /-- So many bytes. -/
  | bytes (data : Array UInt8)
  /-- The same byte for ever. -/
  | endless (byte : UInt8)
deriving DecidableEq, Repr

namespace FileContents

/-- At most `count` bytes from the start. -/
def take (contents : FileContents) (count : Nat) : Array UInt8 :=
  match contents with
  | bytes data => data.take count
  | endless byte => Array.replicate count byte

/-- All bytes, if there is an end to them. -/
def all (contents : FileContents) : Except IoError (Array UInt8) :=
  match contents with
  | bytes data => .ok data
  | endless _ => .error (.other "out of memory")

end FileContents

/-- What a path can lead to. -/
inductive FileEntry where
  | directory
  /-- A file, which is ordinary or a device. -/
  | file (contents : FileContents) (ordinary : Bool)
deriving DecidableEq, Repr

/-- The directories and files of a system. -/
structure FileTree where
  /-- What the names from the root directory on lead to, the latest first. -/
  entries : List (List String × FileEntry)
  /-- The names from the root directory to the working directory. -/
  workingDirectory : List String
deriving DecidableEq, Repr

namespace FileTree

/-- The components of a path. -/
def components (path : String) : List String := path.splitOn "/"

/-- Whether a component stays in its directory. -/
def isStay (part : String) : Bool := part = "" || part = "."

/-- The last component of a path that names something, unless that is the parent directory. -/
def fileName? (path : String) : Option String :=
  match ((components path).filter fun part => !isStay part).getLast? with
  | some ".." => none
  | name => name

/-- The most octets of a name. -/
def nameLimit : Nat := 255

/-- The most octets of a path. -/
def pathLimit : Nat := 4095

/-- Whether a path starts at the root directory. -/
def isAbsolute (path : String) : Bool := path.startsWith "/"

/-- Where a path starts. -/
def start (tree : FileTree) (path : String) : List String :=
  if isAbsolute path then [] else tree.workingDirectory

/-- The path to the working directory. -/
def workingPath (tree : FileTree) : String :=
  String.join (tree.workingDirectory.map ("/" ++ ·))

/-- What names from the root directory on lead to. -/
def find? (tree : FileTree) (names : List String) : Option FileEntry :=
  if names.isEmpty then some .directory else tree.entries.lookup names

/-- Follow one component of a path.  The directory above the root directory is that itself. -/
def follow (tree : FileTree) (names : List String) (part : String) :
    Except IoError (List String) :=
  match tree.find? names with
  | none => .error .notFound
  | some (.file ..) => .error .notADirectory
  | some .directory =>
      if isStay part then .ok names
      else if part = ".." then .ok names.dropLast
      else if nameLimit < part.utf8ByteSize then .error .nameTooLong
      else if (tree.find? (names ++ [part])).isSome then .ok (names ++ [part])
      else .error .notFound

/-- The names from the root directory on to where a path leads. -/
def resolve (tree : FileTree) (path : String) : Except IoError (List String) :=
  if path.contains '\x00' then .error .nulInName
  else if path = "" then .error .notFound
  else if pathLimit < path.utf8ByteSize then .error .nameTooLong
  else (components path).foldlM tree.follow (tree.start path)

/-- What a path leads to. -/
def locate (tree : FileTree) (path : String) : Except IoError FileEntry := do
  match tree.find? (← tree.resolve path) with
  | some entry => return entry
  | none => throw .notFound

/-- Whether a path leads to an ordinary file. -/
def isFile (tree : FileTree) (path : String) : Bool :=
  match tree.locate path with
  | .ok (.file _ ordinary) => ordinary
  | _ => false

/-- The contents of the file that a path leads to. -/
def read (tree : FileTree) (path : String) : Except IoError FileContents := do
  match ← tree.locate path with
  | .file contents _ => return contents
  | .directory => throw .isADirectory

/-- Put something at the end of names from the root directory on. -/
def insert (tree : FileTree) (names : List String) (entry : FileEntry) : FileTree :=
  { tree with entries := (names, entry) :: tree.entries }

/-- Follow one component of a path, making a directory if there is none of its name. -/
def enter (state : FileTree × List String) (part : String) :
    Except IoError (FileTree × List String) :=
  let (tree, names) := state
  match tree.follow names part with
  | .ok names => .ok (tree, names)
  | .error .notFound => .ok (tree.insert (names ++ [part]) .directory, names ++ [part])
  | .error cause => .error cause

/-- The tree with a directory at the end of some components, together with those on the way. -/
def reach (tree : FileTree) (start parts : List String) :
    Except IoError (FileTree × List String) :=
  parts.foldlM enter (tree, start)

/-- The tree with a directory at a path, together with those on the way to it. -/
def addDirectory (tree : FileTree) (path : String) : Except IoError FileTree := do
  return (← tree.reach (tree.start path) (components path)).1

/-- The tree with an ordinary file at a path, together with the directories on the way to it. -/
def addFile (tree : FileTree) (path : String) (data : Array UInt8) : Except IoError FileTree := do
  let (tree, names) ← tree.reach (tree.start path) (components path).dropLast
  match (components path).getLast? with
  | some name =>
      if isStay name || name = ".." then throw .isADirectory
      else return tree.insert (names ++ [name]) (.file (.bytes data) true)
  | none => throw .notFound

/-- The directories of a system in which nothing but a few devices is known. -/
def systemDirectories : List String :=
  ["bin", "boot", "dev", "etc", "home", "lib", "media", "mnt", "opt", "proc", "root", "run",
    "sbin", "srv", "sys", "tmp", "usr", "var"]

/-- The devices that can be read. -/
def devices : List (String × FileContents) :=
  [("null", .bytes #[]), ("zero", .endless 0), ("full", .endless 0)]

/-- A system with an empty working directory. -/
def bare : FileTree where
  entries :=
    (["tmp", "chip8"], .directory) :: systemDirectories.map (fun name => ([name], .directory)) ++
      devices.map fun (name, contents) => (["dev", name], .file contents false)
  workingDirectory := ["tmp", "chip8"]

/-- A system whose working directory holds some directories and files, by their paths. -/
def ofListing (directories : List String) (files : List (String × Array UInt8)) :
    Except IoError FileTree := do
  let tree ← directories.foldlM addDirectory bare
  files.foldlM (fun tree (path, data) => tree.addFile path data) tree

end FileTree
end Chip8
