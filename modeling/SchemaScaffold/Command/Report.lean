import SchemaScaffold.Output.FileName
import SchemaScaffold.Output.Layout
import SchemaScaffold.Output.Placement
import SchemaScaffold.Plan
import SchemaScaffold.Report
import SchemaScaffold.Value.Json

namespace SchemaScaffold.Command

def ofLines (lines : List String) : String := String.join (lines.map (· ++ "\n"))

def padTo (width : Nat) (s : String) : String :=
  s ++ String.ofList (List.replicate (width - s.length) ' ')

def columnLines (column : Column) : List String :=
  let nullable := if column.nullable then "NULL" else "NOT NULL"
  let key := if column.isPrimaryKey then " PRIMARY KEY" else ""
  ("    - " ++ column.name ++ " " ++ column.rawType ++ " " ++ nullable ++ key ++ " -> "
      ++ column.javaType.source ++ " " ++ column.propertyName)
    :: (column.defaultValue.map ("      DEFAULT " ++ ·)).toList

def keyLine (table : Table) : String :=
  match table.primaryKeyColumn with
  | some column => "  Primary Key: " ++ column ++ " (" ++ table.primaryKeyType.source ++ ")"
  | none => "  Primary Key: none (" ++ table.primaryKeyType.source ++ " assumed)"

def tableLines (table : Table) : List String :=
  ["Table: " ++ table.name ++ " -> " ++ table.className]
    ++ (if table.comment.isEmpty then [] else ["  Comment: " ++ table.comment])
    ++ ["  Columns:"]
    ++ table.columns.flatMap columnLines
    ++ [keyLine table]
    ++ (if table.imports.isEmpty then []
        else "  Imports:" :: table.imports.map ("    - " ++ ·))
    ++ [""]

def inspection (tables : List Table) : String :=
  ofLines (["Parsed " ++ toString tables.length ++ " tables:", ""] ++ tables.flatMap tableLines)

def inspectionJson (tables : List Table) : String :=
  ofLines [(Value.list (tables.map Table.toValue)).toJson]

def artifactLine (project : Project) (artifact : Artifact) : Result String := do
  let path := Layout.resolve (← FileName.sanitize artifact.fileName) project.packageName
  return "  " ++ padTo 40 artifact.fileName ++ " " ++ padTo 40 artifact.template ++ " "
    ++ (project.dir.join path).text

def planReport (project : Project) (plan : List Artifact) : Result String := do
  let heading := toString plan.length ++ " artifacts for " ++ project.name ++ " ("
    ++ project.stack.orm.label ++ " + " ++ project.stack.buildTool.label ++ "):"
  return ofLines ([heading, ""] ++ (← plan.mapM (artifactLine project)))

def dryRunReport (placements : List Placement) : String :=
  ofLines ("Dry run mode - would generate:"
    :: placements.map fun placement => "  " ++ placement.absolutePath.toString)

def packReport (path : AbsPath) (bytes : Nat) : String :=
  ofLines ["Packed " ++ path.toString ++ " (" ++ toString bytes ++ " bytes)"]

inductive Failure where
  | plain (error : Error)
  | reading (path : Path) (error : Error)
  | writing (path : AbsPath) (fault : FileFault)

def causes : Error → List String
  | .file fault => [fault.message]
  | _ => []

def Failure.messages : Failure → String × List String
  | plain error => (error.message, causes error)
  | reading path error => ("Failed to read " ++ path.text, error.message :: causes error)
  | writing path fault => ("Failed to write " ++ path.toString, [fault.message])

def indented (first further message : String) : String :=
  first ++ ("\n" ++ further).intercalate (message.splitOn "\n")

def numbered : Nat → List String → List String
  | _, [] => []
  | n, message :: rest =>
    indented (String.ofList (List.replicate (5 - (toString n).length) ' ') ++ toString n ++ ": ")
      "       " message :: numbered (n + 1) rest

def causeLines : List String → List String
  | [] => []
  | [message] => ["", "Caused by:", indented "    " "    " message]
  | messages => ["", "Caused by:"] ++ numbered 0 messages

def Failure.report (failure : Failure) : String :=
  let (message, causes) := failure.messages
  ofLines (("Error: " ++ message) :: causeLines causes)

end SchemaScaffold.Command
