import SchemaScaffold.Disk.Filing
import SchemaScaffold.Output.Placement

namespace SchemaScaffold.Output

def writeFile (placement : Placement) (content : String) : Filing Unit := do
  Filing.makeDirectories placement.absolutePath.parent
  Filing.write placement.absolutePath content.toUTF8

def writeAll (files : FileMap) : List Placement → Filing Unit
  | [] => pure ()
  | placement :: rest => do
    writeFile placement ((files.content? placement.logicalName).getD "")
    writeAll files rest

def writeProject (files : FileMap) (project : Project) (guard : Guard) :
    Filing (List Placement) := do
  let placements ← Filing.ofResult (Placement.plan files project guard)
  writeAll files placements
  return placements

end SchemaScaffold.Output
