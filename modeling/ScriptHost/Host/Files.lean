/-
ScriptHost.Host.Files — the files that a host can read.

Files lie in the working directory or, if their path begins with a slash,
in the root directory. A directory is there as soon as a file lies in it. A
path is walked name by name: `.` stays, `..` goes up, and behind the name of
a file no further name may come. What lies above the working directory is
not known.
-/
import ScriptHost.Host.Fault
import ScriptHost.Text.Utf8

namespace ScriptHost

/-- The names of a path, from the working directory or from the root. -/
abbrev FilePath := List String

/-- The files that are there. -/
structure Files where
  entries : List (FilePath × Bytes) := []
  /-- When they were last changed, in seconds since 1970. -/
  modified : Nat := 1700000000

/-- What a path leads to. -/
inductive FileNode where
  | file (content : Bytes)
  | directory
  deriving DecidableEq, Repr

namespace Files

/-- Splits a text at slashes. -/
def splitPath (path : String) : List String := path.splitOn "/"

/-- The path of the root directory. -/
def root : FilePath := ["/"]

/-- Where the walk along a path begins. -/
def origin (path : String) : FilePath :=
  if path.startsWith "/" then root else []

/-- The names of a path without those that stay where they are. -/
def names (path : String) : FilePath :=
  origin path
    ++ (splitPath path).filter fun name => name ≠ "" && name ≠ "."

/-- The files with the given texts. -/
def ofList (files : List (String × Bytes)) : Files :=
  { entries := files.map fun (path, content) => (names path, content) }

/-- Writes a file, in place of an older one. -/
def insert (files : Files) (path : String) (content : Bytes) : Files :=
  { files with entries := (names path, content)
      :: files.entries.filter fun p => p.1 ≠ names path }

/-- The content of a file. -/
def content? (files : Files) (path : FilePath) : Option Bytes :=
  files.entries.lookup path

/-- Does a file lie in it? -/
def isDirectory (files : Files) (path : FilePath) : Bool :=
  files.entries.any fun p =>
    path.length < p.1.length && p.1.take path.length = path

/-- The longest name, in bytes. -/
def longestName : Nat := 255

/-- The longest path, in bytes. -/
def longestPath : Nat := 4095

/-- Walks the names of a path from a directory. -/
def walk (files : Files) : FilePath → List String →
    Except IoFault FileNode
  | _, [] => .ok .directory
  | here, name :: rest =>
    if name = "" ∨ name = "." then walk files here rest
    else if name = ".." then
      if here = root then walk files here rest
      else if here.isEmpty then walkUnknown rest
      else walk files here.dropLast rest
    else if longestName < name.utf8ByteSize then .error .nameTooLong
    else
      let next := here ++ [name]
      if files.isDirectory next then walk files next rest
      else match files.content? next with
        | some content =>
          if rest.isEmpty then .ok (.file content) else .error .notADirectory
        | none => .error .notFound
where
  /-- Walks above the working directory. -/
  walkUnknown : List String → Except IoFault FileNode
    | [] => .ok .directory
    | name :: rest =>
      if name = "" ∨ name = "." ∨ name = ".." then walkUnknown rest
      else if longestName < name.utf8ByteSize then .error .nameTooLong
      else .error .notFound

/-- What a path leads to. -/
def find (files : Files) (path : String) : Except IoFault FileNode :=
  if path.toList.contains '\x00' then .error .zeroInPath
  else if path = "" then .error .notFound
  else if longestPath < path.utf8ByteSize then .error .nameTooLong
  else walk files (origin path) (splitPath path)

/-- Is there a file or a directory? -/
def doesExist (files : Files) (path : String) : Bool :=
  match files.find path with
  | .ok _ => true
  | .error _ => false

/-- The text of a file. -/
def readText (files : Files) (path : String) : Except IoFault String := do
  match ← files.find path with
  | .directory => .error .isADirectory
  | .file content =>
    match Utf8.toString? content with
    | .ok text => .ok text
    | .error _ => .error .notText

end Files

end ScriptHost
