import SchemaScaffold.Path
import SchemaScaffold.Schema
import SchemaScaffold.Validation

namespace SchemaScaffold

structure Project where
  name : String
  packageName : String
  outputRoot : Path
  stack : Stack
  deriving DecidableEq, Repr, Inhabited

namespace Project

def dir (project : Project) : Path := project.outputRoot.join ⟨project.name⟩

def appName (project : Project) : String := Naming.applicationClassName project.name

/-- The tables of a script, read in the given dialect or else in that of the database. -/
def parseTables (project : Project) (script : String) (dialect : Option String) :
    Result (List Table) := do
  Validation.sql script
  let dialect ← Schema.selectDialect (some (dialect.getD project.stack.database.label))
  Schema.parse dialect script

end Project

end SchemaScaffold
