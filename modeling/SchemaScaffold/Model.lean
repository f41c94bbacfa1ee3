import SchemaScaffold.Project
import SchemaScaffold.Report

namespace SchemaScaffold.Model

def apiDocImport : String := "io.swagger.v3.oas.annotations.media.Schema"

def notNullImport : String := "jakarta.validation.constraints.NotNull"

def sizeImport : String := "jakarta.validation.constraints.Size"

/-- The imports that the features of a stack add to the class of a table. Columns of the primary key
are not validated. -/
def featureImports (stack : Stack) (table : Table) : List String :=
  let validated := table.columns.filter fun column => !column.isPrimaryKey
  (if stack.apiDocs then [apiDocImport] else [])
    ++ (if stack.validation && validated.any Column.needsNotNull then [notNullImport] else [])
    ++ (if stack.validation && validated.any Column.needsSize then [sizeImport] else [])

def imports (stack : Stack) (table : Table) : List String :=
  sortedSet (table.imports ++ featureImports stack table)

def projectRecord (project : Project) : Value :=
  .record [
    ("projectName", .text project.name),
    ("packageName", .text project.packageName),
    ("className", .text project.appName),
    ("javaVersion", .text project.stack.javaVersion.label),
    ("frameworkVersion", .text project.stack.frameworkVersion)]

def stackRecord (stack : Stack) : Value :=
  .record [
    ("ormFramework", .text stack.orm.label),
    ("buildTool", .text stack.buildTool.label),
    ("databaseType", .text stack.database.label),
    ("useLombok", .bool stack.lombokAccessors),
    ("useApiDocs", .bool stack.apiDocs),
    ("useValidation", .bool stack.validation),
    ("usePagination", .bool stack.pagination),
    ("useCache", .bool stack.cache)]

def tableFields (stack : Stack) (table : Table) : List (String × Value) := [
  ("tableName", .text table.name),
  ("tableComment", .text table.comment),
  ("classNameUncap", .text (Naming.instanceName table.className)),
  ("primaryKeyType", .text table.primaryKeyType.source),
  ("primaryKeyColumn", .optText table.primaryKeyColumn),
  ("primaryKeyColumnName", .optText (table.primaryKey.map (·.name))),
  ("primaryKeyPropertyName", .optText (table.primaryKey.map (·.propertyName))),
  ("columns", table.columnValues),
  ("imports", .texts (imports stack table))]

def commonFields (project : Project) (className : String) (table : Value) :
    List (String × Value) := [
  ("project", projectRecord project),
  ("config", stackRecord project.stack),
  ("table", table),
  ("packageName", .text project.packageName),
  ("projectName", .text project.name),
  ("className", .text className)]

def ofProject (project : Project) : Value :=
  .record (commonFields project project.appName .null)

def ofTable (project : Project) (table : Table) : Value :=
  let fields := tableFields project.stack table
  let record := .record (("className", .text table.className) :: fields)
  .record (commonFields project table.className record ++ fields)

def make (project : Project) : Option Table → Value
  | some table => ofTable project table
  | none => ofProject project

end SchemaScaffold.Model
