import SchemaScaffold.FileMap
import SchemaScaffold.Model
import SchemaScaffold.Plan
import SchemaScaffold.Renderer

namespace SchemaScaffold.Generate

def renderAll (renderer : Renderer) (project : Project) (plan : List Artifact) :
    Result (List (String × String)) :=
  plan.mapM fun artifact => do
    return (artifact.fileName, ← renderer (Model.make project artifact.table) artifact.template)

/-- The files for some tables. -/
def ofTables (renderer : Renderer) (project : Project) (selector : Selector)
    (tables : List Table) (maxTables : Nat) : Result FileMap := do
  let plan ← Plan.make project selector tables maxTables
  return FileMap.ofList (← renderAll renderer project plan)

def ofScript (renderer : Renderer) (project : Project) (selector : Selector) (script : String)
    (dialect : Option String) (maxTables : Nat) : Result FileMap := do
  ofTables renderer project selector (← project.parseTables script dialect) maxTables

end SchemaScaffold.Generate
