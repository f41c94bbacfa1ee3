import SchemaScaffold.FileMap
import SchemaScaffold.Output.FileName
import SchemaScaffold.Output.Guard
import SchemaScaffold.Output.Layout
import SchemaScaffold.Project

/-!
# Placements

Where every file of a project is to be written. All checks that need no file system are made here,
so that nothing is written when one of them fails.
-/

namespace SchemaScaffold

structure Placement where
  logicalName : String
  relativePath : Path
  absolutePath : AbsPath
  deriving DecidableEq, Repr, Inhabited

namespace Placement

def place (packageName : String) (guard : Guard) (base : AbsPath) (placed : List Placement)
    (name content : String) : Result Placement := do
  Validation.fileSize name content.utf8ByteSize
  let relativePath := Layout.resolve (← FileName.sanitize name) packageName
  let components := relativePath.components
  match placed.find? (·.relativePath.components == components) with
  | some first => Result.invalid (.samePath first.logicalName name relativePath.text)
  | none =>
    return { logicalName := name, relativePath
             absolutePath := ← guard.resolveFrom base relativePath }

def placeAll (packageName : String) (guard : Guard) (base : AbsPath) (placed : List Placement) :
    List (String × String) → Result (List Placement)
  | [] => .ok placed
  | (name, content) :: rest => do
    let placement ← place packageName guard base placed name content
    placeAll packageName guard base (placed ++ [placement]) rest

/-- The places of the files of a project, in their order. -/
def plan (files : FileMap) (project : Project) (guard : Guard) : Result (List Placement) := do
  Validation.fileCount files.entries.length
  let base ← guard.resolveDir project.dir
  placeAll project.packageName guard base [] files.entries

end Placement

end SchemaScaffold
