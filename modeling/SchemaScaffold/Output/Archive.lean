import SchemaScaffold.Disk.Names
import SchemaScaffold.Output.Guard

/-!
# Archives

An archive holds the regular files below a directory under their paths from there. Directories and
links leave nothing in it, and nothing behind a link is looked at. The names in an archive are texts,
and no two of its files may have the same one.
-/

namespace SchemaScaffold

structure ArchiveEntry where
  name : String
  content : ByteArray
  deriving Inhabited

namespace Archive

def regularFiles {Name : Type} (nodes : List (List Name × Node Name)) :
    List (List Name × ByteArray) :=
  nodes.filterMap fun found =>
    match found.2 with
    | .file bytes => some (found.1, bytes)
    | _ => none

def nameBefore (a b : DiskName) : Bool :=
  a.bytes.lex b.bytes fun x y => Nat.blt x.toNat y.toNat

def inPathOrder (files : List (List DiskName × ByteArray)) : List (List DiskName × ByteArray) :=
  files.mergeSort fun a b => !b.1.lex a.1 nameBefore

def entryName (names : List DiskName) : String := "/".intercalate (names.map DiskName.text)

def entryOf (file : List DiskName × ByteArray) : ArchiveEntry := ⟨entryName file.1, file.2⟩

def addFiles (archive : List ArchiveEntry) :
    List (List DiskName × ByteArray) → Result (List ArchiveEntry)
  | [] => .ok archive
  | file :: rest =>
    if archive.any (·.name == entryName file.1) then throw (.archive .duplicateName)
    else addFiles (archive ++ [entryOf file]) rest

def ofTree (node : Node DiskName) : Result (List ArchiveEntry) :=
  addFiles [] (inPathOrder (regularFiles (([], node) :: node.descendants)))

/-- What the packing of a directory sees of a file system: whether a path leads to a directory from
where it starts, and what stands at a place. -/
structure Source where
  isDirectory : AbsPath → Path → Bool
  find : AbsPath → Except FileFault (Node DiskName)

def Source.ofDisk (disk : Disk) : Source where
  isDirectory := disk.isDirectory
  find place := (disk.find AbsPath.root place.toPath).map (·.renamed DiskName.ofText)

/-- The archive of the directory of a project. -/
def packFrom (source : Source) (dir : Path) (guard : Guard) : Result (List ArchiveEntry) := do
  if !source.isDirectory guard.start dir then Result.invalid (.noProjectDirectory dir.text)
  let place ← guard.resolveDir dir
  match source.find place with
  | .ok node => ofTree node
  | .error fault => throw (.archive (.unreadable place.toString fault))

def pack (disk : Disk) (dir : Path) (guard : Guard) : Result (List ArchiveEntry) :=
  packFrom (.ofDisk disk) dir guard

end Archive

end SchemaScaffold
