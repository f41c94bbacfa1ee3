import SchemaScaffold.Script.Statements
import SchemaScaffold.Script.TableOptions
import SchemaScaffold.Sql.Statement
import SchemaScaffold.Table

/-!
# Schemas

From a script to its tables. Every statement is parsed on its own: a statement that the dialect
rejects is passed over, and so is every statement that neither defines a table nor comments on one.
Comments are applied once the whole script has been read.
-/

namespace SchemaScaffold.Schema

open Sql (Statement CreateTable ColumnDef ColumnOption CommentTarget)

abbrev StatementReader := String → Except Sql.SyntaxError (List Statement)

def reader (dialect : Dialect) : StatementReader :=
  fun text => Sql.Statement.ofText dialect text.toList

inductive LateComment where
  | onTable (table text : String)
  | onColumn (table column text : String)
  deriving DecidableEq, Repr

structure Reading where
  /-- The table definitions in the order of the script, each with the text that it stands in. -/
  creates : List (CreateTable × String) := []
  comments : List LateComment := []
  parsedAny : Bool := false
  firstError : Option (String × Sql.SyntaxError) := none

def lateComment? (target : CommentTarget) (name : Sql.Name) (text : String) :
    Option LateComment :=
  match target, name.reverse.map (fun i => Text.lower i.text) with
  | .table, table :: _ => some (.onTable table text)
  | .column, column :: table :: _ => some (.onColumn table column text)
  | _, _ => none

def Reading.add (text : String) (reading : Reading) (statement : Statement) : Reading :=
  match statement with
  | .createTable create => { reading with creates := reading.creates ++ [(create, text)] }
  | .comment target name (some comment) =>
    { reading with comments := reading.comments ++ (lateComment? target name comment).toList }
  | .comment _ _ none | .other => reading

def Reading.addText (read : StatementReader) (reading : Reading) (text : String) : Reading :=
  match read text with
  | .error cause => { reading with firstError := reading.firstError.or (some (text, cause)) }
  | .ok statements =>
    statements.foldl (Reading.add text)
      { reading with parsedAny := reading.parsedAny || !statements.isEmpty }

def readScript (read : StatementReader) (script : String) : Reading :=
  (Script.statements script).foldl (Reading.addText read) {}

def tableComment? (comments : List LateComment) (table : String) : Option String :=
  comments.reverse.findSome? fun
    | .onTable t text => if t == table then some text else none
    | .onColumn .. => none

def columnComment? (comments : List LateComment) (table column : String) : Option String :=
  comments.reverse.findSome? fun
    | .onColumn t c text => if t == table && c == column then some text else none
    | .onTable .. => none

/-- Cuts a data type into its name and its arguments: what stands before the first opening bracket
and what stands between it and the last closing one. -/
def splitType (type : List Char) : List Char × Option (List Char) :=
  let base := type.takeWhile (· != '(')
  match type.dropWhile (· != '(') with
  | _ :: rest =>
    match rest.reverse.dropWhile (· != ')') with
    | _ :: arguments => (Text.trimList base, some (Text.trimList arguments.reverse))
    | [] => (Text.trimList type, none)
  | [] => (Text.trimList type, none)

def applyOption (draft : ColumnDraft) : ColumnOption → ColumnDraft
  | .notNull => draft.withNullable false
  | .null => draft.withNullable true
  | .default expr => draft.withDefault expr
  | .primaryKey => draft.withPrimaryKey true
  | .comment text => draft.withComment text
  | .other => draft

/-- The draft of a declared column, a late comment overriding its own. -/
def columnDraft (definition : ColumnDef) (late : Option String) : ColumnDraft :=
  let (base, length) := splitType definition.dataType.toList
  let draft : ColumnDraft := { name := definition.name.text, baseType := String.ofList base }
  let draft := match length with
    | some length => draft.withLength (String.ofList length)
    | none => draft
  let draft := definition.options.foldl applyOption draft
  match late with
  | some comment => draft.withComment comment
  | none => draft

def tableName (create : CreateTable) : String :=
  (create.name.getLast?.map (·.text)).getD ""

def toTable (comments : List LateComment) (create : CreateTable) (text : String) :
    Result Table := do
  let name := tableName create
  let key := Text.lower name
  let comment := (tableComment? comments key).or (Script.tableComment text)
  let columns ← create.columns.mapM fun definition =>
    (columnDraft definition (columnComment? comments key (Text.lower definition.name.text))).build
  Table.make name comment columns

def Reading.tables (reading : Reading) : Result (List Table) :=
  if !reading.parsedAny then
    match reading.firstError with
    | some (text, cause) => .error (.schema (.rejected text cause))
    | none => .error (.schema .noStatement)
  else if reading.creates.isEmpty then .error .noTables
  else reading.creates.mapM fun (create, text) => toTable reading.comments create text

def parseWith (read : StatementReader) (script : String) : Result (List Table) :=
  if Text.isBlankText script then .error (.schema .blank) else (readScript read script).tables

def selectDialect (request : Option String) : Result Dialect :=
  match Dialect.ofRequest? request with
  | some dialect => .ok dialect
  | none => .error (.unsupportedDialect (Dialect.requestedName request))

def parse (dialect : Dialect) (script : String) : Result (List Table) :=
  parseWith (reader dialect) script

end SchemaScaffold.Schema
