import SchemaScaffold.Error
import SchemaScaffold.Path

/-!
# Disks

A tree of files, directories and symbolic links. A path is followed name by name, and a link on
the way sends the rest of the path on to its target.
-/

namespace SchemaScaffold

inductive Node (Name : Type) where
  | file (bytes : ByteArray)
  | link (target : Path)
  | directory (entries : List (Name × Node Name))
  deriving Inhabited

def putNode (name : String) (node : Node String) :
    List (String × Node String) → List (String × Node String)
  | [] => [(name, node)]
  | entry :: rest =>
    if entry.1 = name then (name, node) :: rest else entry :: putNode name node rest

namespace Node

def emptyDirectory : Node String := directory []

section

variable {Name : Type}

def get? [DecidableEq Name] : List Name → Node Name → Option (Node Name)
  | [], node => some node
  | name :: rest, directory entries => (entries.lookup name).bind (get? rest)
  | _ :: _, _ => none

mutual

def descendants : Node Name → List (List Name × Node Name)
  | directory entries => descendantsAmong entries
  | _ => []

def descendantsAmong : List (Name × Node Name) → List (List Name × Node Name)
  | [] => []
  | (name, node) :: rest =>
    ([name], node) :: (descendants node).map (fun found => (name :: found.1, found.2))
      ++ descendantsAmong rest

end

def isDirectory : Node Name → Bool
  | directory _ => true
  | _ => false

end

/-- A tree with a new node where names lead to. Directories that are not there are made on the way;
below a file or a link nothing changes. -/
def put : List String → Node String → Node String → Node String
  | [], _, new => new
  | name :: rest, directory entries, new =>
    directory (putNode name (put rest ((entries.lookup name).getD emptyDirectory) new) entries)
  | _ :: _, other, _ => other

end Node

structure Disk where
  entries : List (String × Node String)
  deriving Inhabited

inductive Spot where
  | found (place : AbsPath) (node : Node String)
  | free (place : AbsPath)
  deriving Inhabited

namespace Disk

def root (disk : Disk) : Node String := .directory disk.entries

def node? (disk : Disk) (place : AbsPath) : Option (Node String) := disk.root.get? place.names

def put (disk : Disk) (place : AbsPath) (node : Node String) : Disk :=
  match disk.root.put place.names node with
  | .directory entries => ⟨entries⟩
  | _ => disk

def maxNameBytes : Nat := 255

def maxLinks : Nat := 40

/-- Follows names from a directory. `onLink` goes on where a link stands, given the directory of the
link, its target and the names left; a link that ends the path is only followed on demand. -/
def walkNames (disk : Disk) (followLast : Bool)
    (onLink : AbsPath → Path → List String → Except FileFault Spot) (place : AbsPath) :
    List String → Except FileFault Spot
  | [] =>
    match disk.node? place with
    | some node => .ok (.found place node)
    | none => .error .notFound
  | name :: rest =>
    match disk.node? place with
    | some (.directory entries) =>
      if name == "." then walkNames disk followLast onLink place rest
      else if name == ".." then walkNames disk followLast onLink place.parent rest
      else if maxNameBytes < name.utf8ByteSize then .error .nameTooLong
      else
        match entries.lookup name with
        | some (.link target) =>
          if rest.isEmpty && !followLast then .ok (.found (place.child name) (.link target))
          else onLink place target rest
        | some _ => walkNames disk followLast onLink (place.child name) rest
        | none => if rest.isEmpty then .ok (.free (place.child name)) else .error .notFound
    | some _ => .error .notADirectory
    | none => .error .notFound

/-- The names of a path, with one that stays in place for a slash at its end. -/
def namesToFollow (path : Path) : List String :=
  if Path.endsInSlash path.text then path.names ++ ["."] else path.names

def walk (disk : Disk) (followLast : Bool) : Nat → AbsPath → List String → Except FileFault Spot
  | 0 => walkNames disk followLast fun _ _ _ => .error .tooManyLinks
  | links + 1 => walkNames disk followLast fun place target rest =>
    walk disk followLast links (if target.isAbsolute then AbsPath.root else place)
      (namesToFollow target ++ rest)

def follow (disk : Disk) (followLast : Bool) (start : AbsPath) (path : Path) :
    Except FileFault Spot :=
  if path.isEmpty then .error .notFound
  else
    walk disk followLast maxLinks (if path.isAbsolute then AbsPath.root else start)
      (namesToFollow path)

def find (disk : Disk) (start : AbsPath) (path : Path) : Except FileFault (Node String) :=
  match disk.follow true start path with
  | .ok (.found _ node) => .ok node
  | .ok (.free _) => .error .notFound
  | .error fault => .error fault

def contains (disk : Disk) (start : AbsPath) (path : Path) : Bool :=
  (disk.find start path).toBool

def isDirectory (disk : Disk) (start : AbsPath) (path : Path) : Bool :=
  match disk.find start path with
  | .ok node => node.isDirectory
  | .error _ => false

def read (disk : Disk) (start : AbsPath) (path : Path) : Except FileFault ByteArray :=
  match disk.find start path with
  | .ok (.file bytes) => .ok bytes
  | .ok (.directory _) => .error .isADirectory
  | .ok (.link _) => .error .tooManyLinks
  | .error fault => .error fault

def readText (disk : Disk) (start : AbsPath) (path : Path) : Except FileFault String := do
  let bytes ← disk.read start path
  match String.fromUTF8? bytes with
  | some text => return text
  | none => throw .notUtf8

end Disk

end SchemaScaffold
