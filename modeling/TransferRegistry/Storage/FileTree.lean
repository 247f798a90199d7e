import Std.Data.ExtTreeMap
import TransferRegistry.Crypto.Words

/-!
# Files

`FileTree` is the content of a directory: which files and directories there are below it and what the files hold.
`FileTree.read`, `FileTree.write`, `FileTree.rename` and `FileTree.createDirectories` fail where a file system would:
a file has nothing below it, a directory has no content, and nothing can be put where there is no directory. What is
left where a write is cut off is up to the disk (`StateDirectory.writeFile`).
-/

namespace TransferRegistry

open Crypto (Bytes)

/-- The names on the way to a file, from the working directory, or after `/` from the root. -/
abbrev FilePath := List String

namespace FilePath

def root : FilePath := ["/"]

/-- One more name on the way: nothing and `.` stay, `..` goes back. -/
def step (path : FilePath) (name : String) : FilePath :=
  if name = "" || name = "." then path
  else if name = ".." then if path = root then root else path.dropLast
  else path ++ [name]

def ofText (s : String) : FilePath :=
  (s.splitOn "/").foldl step (if s.toList.head? = some '/' then root else [])

def text : FilePath → String
  | [] => "."
  | "/" :: names => "/" ++ "/".intercalate names
  | names => "/".intercalate names

/-- How long a name may be, in bytes. -/
def longestName : Nat := 255

/-- Whether a file system takes the names. -/
def valid (path : FilePath) : Bool :=
  path.all fun name => !name.toList.contains '\x00' && name.utf8ByteSize ≤ longestName

end FilePath

inductive FileNode where
  | file (content : Bytes)
  | directory
deriving DecidableEq

inductive FileError where
  | notFound
  | other
deriving DecidableEq

/-- The files and directories below a directory. -/
structure FileTree where
  nodes : Std.ExtTreeMap FilePath FileNode

namespace FileTree

def empty : FileTree := ⟨∅⟩

instance : EmptyCollection FileTree := ⟨empty⟩
instance : Inhabited FileTree := ⟨empty⟩

/-- What is at a path; the directory itself is at the empty one. -/
def node? (t : FileTree) (path : FilePath) : Option FileNode :=
  if path = [] then some .directory else t.nodes[path]?

def content? (t : FileTree) (path : FilePath) : Option Bytes :=
  match t.node? path with
  | some (.file content) => some content
  | _ => none

/-- Whether there is a file on the way to a path. -/
def blocked (t : FileTree) (path : FilePath) : Bool :=
  (List.range path.length).any fun n => (t.content? (path.take n)).isSome

def read (t : FileTree) (path : FilePath) : Except FileError Bytes :=
  if !FilePath.valid path || t.blocked path then .error .other
  else
    match t.node? path with
    | some (.file content) => .ok content
    | some .directory => .error .other
    | none => .error .notFound

/-- Whether a file can be put at a path: its directory is there, and it is none itself. -/
def takesFile (t : FileTree) (path : FilePath) : Bool :=
  FilePath.valid path && t.node? path.dropLast = some .directory && t.node? path ≠ some .directory

def write (t : FileTree) (path : FilePath) (content : Bytes) : Except FileError FileTree :=
  if t.takesFile path then .ok ⟨t.nodes.insert path (.file content)⟩ else .error .other

/-- Moves a file to another path, in place of the file that is there. -/
def rename (t : FileTree) (source target : FilePath) : Except FileError FileTree :=
  match t.content? source with
  | some content =>
    if t.takesFile target then .ok ⟨(t.nodes.erase source).insert target (.file content)⟩ else .error .other
  | none => .error .other

/-- Makes a directory at a path, and those on the way to it. -/
def createDirectories (t : FileTree) (path : FilePath) : Except FileError FileTree :=
  if !FilePath.valid path || t.blocked path || (t.content? path).isSome then .error .other
  else
    .ok ⟨(List.range path.length).foldl (fun nodes n => nodes.insert (path.take (n + 1)) .directory) t.nodes⟩

/-- The names in the directory at a path, in order. -/
def names (t : FileTree) (path : FilePath) : List String :=
  t.nodes.keys.filterMap fun p => if p.dropLast = path then p.getLast? else none

end FileTree

end TransferRegistry
