import SchemaScaffold.Project
import SchemaScaffold.Selector

namespace SchemaScaffold

structure Artifact where
  role : Role
  fileName : String
  template : TemplateId
  table : Option Table
  deriving DecidableEq, Repr, Inhabited

namespace Artifact

def tableName (artifact : Artifact) : Option String := artifact.table.map (·.name)

def origin (artifact : Artifact) : Origin := ⟨artifact.role, artifact.tableName⟩

end Artifact

namespace Plan

def artifacts (project : Project) (selector : Selector) (table : Option Table)
    (roles : List Role) : List Artifact :=
  roles.filterMap fun role =>
    (selector.resolve role project.stack).map fun template =>
      { role, template, table
        fileName :=
          role.fileName ((table.map (·.className)).getD "") project.appName project.stack }

def all (project : Project) (selector : Selector) (tables : List Table) : List Artifact :=
  artifacts project selector none Role.ofProject
    ++ tables.flatMap fun table => artifacts project selector (some table) Role.ofTable

def firstClash (seen : List Artifact) : List Artifact → Option (Artifact × Artifact)
  | [] => none
  | artifact :: rest =>
    match seen.find? (·.fileName == artifact.fileName) with
    | some first => some (first, artifact)
    | none => firstClash (seen ++ [artifact]) rest

def checkNames (plan : List Artifact) : Result Unit :=
  match firstClash [] plan with
  | some (first, second) =>
    Result.invalid (.duplicateArtifact second.fileName first.origin second.origin)
  | none => .ok ()

/-- The files to make for some tables. There must be a table, there must not be too many, and the
name of the project must leave a class name. -/
def make (project : Project) (selector : Selector) (tables : List Table) (maxTables : Nat) :
    Result (List Artifact) := do
  if tables.isEmpty then throw .noTables
  if maxTables < tables.length then throw (.tooManyTables tables.length maxTables)
  Validation.require (!project.appName.isEmpty) (.noApplicationClass project.name)
  let plan := all project selector tables
  checkNames plan
  return plan

end Plan

end SchemaScaffold
