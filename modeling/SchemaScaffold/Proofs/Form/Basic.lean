import SchemaScaffold.Model
import SchemaScaffold.Template.Render

/-!
# Forms

A form is a template whose names have been resolved to the data of a project and a table: plain
text, printed data, choices by data, and repetitions for the columns or the imports of the table.
Nothing in a form can be undefined, so it has a text for every project and every table.
-/

namespace SchemaScaffold.Form

open Template (truth printedText between loopRecord replaced)

/-- Whether a template is rendered once for the project or once for each table. -/
inductive Scope where
  | ofProject
  | ofTable
  deriving DecidableEq, Repr

/-- What a place of a form is about. The last four fields matter inside repetitions only. -/
structure Focus where
  project : Project
  table : Table
  column : Column := default
  imported : String := ""
  index : Nat := 0
  count : Nat := 0

inductive Datum where
  | packageName
  | projectName
  | appName
  | javaVersion
  | frameworkVersion
  | orm
  | buildTool
  | database
  | flag (feature : Feature)
  | className
  | tableName
  | tableComment
  | instanceName
  | keyType
  | keyColumn
  | keyColumnName
  | keyProperty
  | columnName
  | propertyName
  | rawType
  | mappedType
  | length
  | maxLength
  | nullable
  | isPrimaryKey
  | defaultValue
  | columnComment
  | imported
  | isLast
  deriving DecidableEq, Repr

def Datum.value (focus : Focus) : Datum → Value
  | packageName => .text focus.project.packageName
  | projectName => .text focus.project.name
  | appName => .text focus.project.appName
  | javaVersion => .text focus.project.stack.javaVersion.label
  | frameworkVersion => .text focus.project.stack.frameworkVersion
  | orm => .text focus.project.stack.orm.label
  | buildTool => .text focus.project.stack.buildTool.label
  | database => .text focus.project.stack.database.label
  | flag feature => .bool (focus.project.stack.has feature)
  | className => .text focus.table.className
  | tableName => .text focus.table.name
  | tableComment => .text focus.table.comment
  | instanceName => .text (Naming.instanceName focus.table.className)
  | keyType => .text focus.table.primaryKeyType.source
  | keyColumn => .optText focus.table.primaryKeyColumn
  | keyColumnName => .optText (focus.table.primaryKey.map (·.name))
  | keyProperty => .optText (focus.table.primaryKey.map (·.propertyName))
  | columnName => .text focus.column.name
  | propertyName => .text focus.column.propertyName
  | rawType => .text focus.column.rawType
  | mappedType => .text focus.column.javaType.source
  | length => .optText focus.column.length
  | maxLength => .optNumber focus.column.maxLength
  | nullable => .bool focus.column.nullable
  | isPrimaryKey => .bool focus.column.isPrimaryKey
  | defaultValue => .optText focus.column.defaultValue
  | columnComment => .text focus.column.comment
  | imported => .text focus.imported
  | isLast => .bool (focus.index + 1 == focus.count)

def Datum.isText : Datum → Bool
  | packageName | projectName | appName | className | tableName | columnName | propertyName => true
  | _ => false

inductive Term where
  | constant (value : Value)
  | data (datum : Datum)
  | upper (text : Term)
  | lower (text : Term)
  | replace (text pattern replacement : Term)
  | slice (text : Term) (start : Nat) (stop : Option Nat)
  | equal (left right : Term)
  | negation (condition : Term)
  | choice (condition yes no : Term)
  /-- The printed forms of two values, one behind the other. -/
  | joined (left right : Term)

namespace Term

def value (focus : Focus) : Term → Value
  | constant v => v
  | data datum => datum.value focus
  | upper text => .text (Text.upper (printedText (text.value focus)))
  | lower text => .text (Text.lower (printedText (text.value focus)))
  | replace text pattern replacement =>
    .text (replaced (printedText (pattern.value focus)) (printedText (replacement.value focus))
      (printedText (text.value focus)))
  | slice text start stop =>
    .text (String.ofList (between start stop (printedText (text.value focus)).toList))
  | equal left right => .bool (left.value focus == right.value focus)
  | negation condition => .bool !(truth (condition.value focus))
  | choice condition yes no =>
    if truth (condition.value focus) then yes.value focus else no.value focus
  | joined left right =>
    .text (printedText (left.value focus) ++ printedText (right.value focus))

def isText : Term → Bool
  | constant (.text _) => true
  | data datum => datum.isText
  | upper _ | lower _ | replace .. | slice .. | joined .. => true
  | choice _ yes no => yes.isText && no.isText
  | _ => false

def text (term : Term) (focus : Focus) : String := printedText (term.value focus)

def holds (term : Term) (focus : Focus) : Bool := truth (term.value focus)

theorem exists_value_eq_text {term : Term} (h : term.isText) (focus : Focus) :
    ∃ s, term.value focus = .text s := by
  induction term with
  | constant v => cases v <;> simp_all [isText, value]
  | data datum => cases datum <;> simp_all [isText, Datum.isText, value, Datum.value]
  | choice condition yes no _ ihYes ihNo =>
      simp only [isText, Bool.and_eq_true] at h
      simp only [value]
      split
      · exact ihYes h.1
      · exact ihNo h.2
  | _ => simp_all [isText, value]

end Term

/-- What is known of a value before the data are: which term it is, or which record or list. -/
inductive Known where
  | scalar (term : Term)
  | model (scope : Scope)
  | projectRecord
  | stackRecord
  | tableRecord
  | columnRecord
  | loop
  | columns
  | imports

namespace Known

def value (focus : Focus) : Known → Value
  | scalar term => term.value focus
  | model .ofProject => Model.ofProject focus.project
  | model .ofTable => Model.ofTable focus.project focus.table
  | projectRecord => Model.projectRecord focus.project
  | stackRecord => Model.stackRecord focus.project.stack
  | tableRecord => .record (("className", .text focus.table.className)
      :: Model.tableFields focus.project.stack focus.table)
  | columnRecord => focus.column.toValue
  | loop => loopRecord focus.index focus.count
  | columns => focus.table.columnValues
  | imports => .texts (Model.imports focus.project.stack focus.table)

def ofDatum (datum : Datum) : Known := scalar (.data datum)

def tableFields : List (String × Known) := [
  ("tableName", ofDatum .tableName),
  ("tableComment", ofDatum .tableComment),
  ("classNameUncap", ofDatum .instanceName),
  ("primaryKeyType", ofDatum .keyType),
  ("primaryKeyColumn", ofDatum .keyColumn),
  ("primaryKeyColumnName", ofDatum .keyColumnName),
  ("primaryKeyPropertyName", ofDatum .keyProperty),
  ("columns", columns),
  ("imports", imports)]

def commonFields (className table : Known) : List (String × Known) := [
  ("project", projectRecord),
  ("config", stackRecord),
  ("table", table),
  ("packageName", ofDatum .packageName),
  ("projectName", ofDatum .projectName),
  ("className", className)]

/-- The fields of a record that the templates may look into. -/
def fields : Known → List (String × Known)
  | model .ofProject => commonFields (ofDatum .appName) (scalar (.constant .null))
  | model .ofTable => commonFields (ofDatum .className) tableRecord ++ tableFields
  | projectRecord => [
      ("projectName", ofDatum .projectName),
      ("packageName", ofDatum .packageName),
      ("className", ofDatum .appName),
      ("javaVersion", ofDatum .javaVersion),
      ("frameworkVersion", ofDatum .frameworkVersion)]
  | stackRecord => [
      ("ormFramework", ofDatum .orm),
      ("buildTool", ofDatum .buildTool),
      ("databaseType", ofDatum .database),
      ("useLombok", ofDatum (.flag .lombokAccessors)),
      ("useApiDocs", ofDatum (.flag .apiDocs)),
      ("useValidation", ofDatum (.flag .validation)),
      ("usePagination", ofDatum (.flag .pagination)),
      ("useCache", ofDatum (.flag .cache))]
  | tableRecord => ("className", ofDatum .className) :: tableFields
  | columnRecord => [
      ("columnName", ofDatum .columnName),
      ("propertyName", ofDatum .propertyName),
      ("rawDbType", ofDatum .rawType),
      ("mappedType", ofDatum .mappedType),
      ("length", ofDatum .length),
      ("maxLength", ofDatum .maxLength),
      ("nullable", ofDatum .nullable),
      ("isPrimaryKey", ofDatum .isPrimaryKey),
      ("defaultValue", ofDatum .defaultValue),
      ("comment", ofDatum .columnComment)]
  | loop => [("last", ofDatum .isLast)]
  | _ => []

def field? (key : String) (known : Known) : Option Known := known.fields.lookup key

theorem lookup_map_value (fields : List (String × Known)) (focus : Focus) (key : String) :
    (fields.map fun field => (field.1, field.2.value focus)).lookup key =
      (fields.lookup key).map (value focus) := by
  induction fields with
  | nil => rfl
  | cons field rest ih =>
      obtain ⟨name, known⟩ := field
      simp only [List.map_cons, List.lookup_cons, ih]
      cases key == name <;> rfl

/-- A record whose fields are known has no others, that of a loop aside. -/
theorem value_eq_record {known : Known} (hloop : known ≠ loop) (hfields : known.fields ≠ [])
    (focus : Focus) :
    known.value focus = .record (known.fields.map fun field => (field.1, field.2.value focus)) := by
  cases known with
  | model scope => cases scope <;> rfl
  | loop => exact absurd rfl hloop
  | scalar | columns | imports => exact absurd rfl hfields
  | projectRecord | stackRecord | tableRecord | columnRecord => rfl

theorem field?_value {known field : Known} {key : String} (h : known.field? key = some field)
    (focus : Focus) : (known.value focus).field? key = some (field.value focus) := by
  by_cases hloop : known = loop
  · subst hloop
    have hkey : key = "last" ∧ field = ofDatum .isLast := by
      simp only [field?, fields, List.lookup_cons, List.lookup_nil] at h
      cases hkey : key == "last" <;> simp_all
    obtain ⟨rfl, rfl⟩ := hkey
    rfl
  · have hfields : known.fields ≠ [] := by
      intro hempty
      simp [field?, hempty] at h
    rw [value_eq_record hloop hfields]
    have hlookup := lookup_map_value known.fields focus key
    rw [show known.fields.lookup key = some field from h] at hlookup
    exact hlookup

end Known

inductive Piece where
  | plain (chars : List Char)
  | print (term : Term)
  | branch (condition : Term) (yes no : List Piece)
  | forColumns (keep : Term) (body : List Piece)
  | forImports (body : List Piece)

/-- The places of a repetition: one for each item, with its index and the number of all items. -/
def places {α : Type} (enter : α → Focus) (count : Nat) : Nat → List α → List Focus
  | _, [] => []
  | index, item :: rest =>
    { enter item with index, count } :: places enter count (index + 1) rest

theorem mem_places {α : Type} {enter : α → Focus} {count index : Nat} {items : List α}
    {place : Focus} (h : place ∈ places enter count index items) :
    ∃ item ∈ items, ∃ index', place = { enter item with index := index', count } := by
  induction items generalizing index with
  | nil => cases h
  | cons item rest ih =>
      rcases List.mem_cons.mp h with rfl | h
      · exact ⟨item, by simp, index, rfl⟩
      · obtain ⟨other, hother, hplace⟩ := ih h
        exact ⟨other, List.mem_cons_of_mem _ hother, hplace⟩

namespace Focus

def keptColumns (focus : Focus) (keep : Term) : List Column :=
  focus.table.columns.filter fun column => keep.holds { focus with column }

def atColumns (focus : Focus) (keep : Term) : List Focus :=
  places (fun column => { focus with column }) (focus.keptColumns keep).length 0
    (focus.keptColumns keep)

def imports (focus : Focus) : List String := Model.imports focus.project.stack focus.table

def atImports (focus : Focus) : List Focus :=
  places (fun imported => { focus with imported }) focus.imports.length 0 focus.imports

end Focus

mutual

def Piece.chars : Piece → Focus → List Char
  | .plain chars, _ => chars
  | .print term, focus => (term.text focus).toList
  | .branch condition yes no, focus =>
    if condition.holds focus then charsOf yes focus else charsOf no focus
  | .forColumns keep body, focus => (focus.atColumns keep).flatMap (charsOf body)
  | .forImports body, focus => focus.atImports.flatMap (charsOf body)

def charsOf : List Piece → Focus → List Char
  | [], _ => []
  | piece :: rest, focus => piece.chars focus ++ charsOf rest focus

end

def textOf (form : List Piece) (focus : Focus) : String := String.ofList (charsOf form focus)

@[simp]
theorem toList_textOf (form : List Piece) (focus : Focus) :
    (textOf form focus).toList = charsOf form focus := String.toList_ofList

@[simp]
theorem charsOf_nil (focus : Focus) : charsOf [] focus = [] := rfl

@[simp]
theorem charsOf_cons (piece : Piece) (rest : List Piece) (focus : Focus) :
    charsOf (piece :: rest) focus = piece.chars focus ++ charsOf rest focus := rfl

theorem charsOf_append (pieces others : List Piece) (focus : Focus) :
    charsOf (pieces ++ others) focus = charsOf pieces focus ++ charsOf others focus := by
  induction pieces with
  | nil => rfl
  | cons piece rest ih => simp [ih]

theorem textOf_append (pieces others : List Piece) (focus : Focus) :
    textOf (pieces ++ others) focus = textOf pieces focus ++ textOf others focus := by
  rw [textOf, charsOf_append, String.ofList_append, textOf, textOf]

theorem textOf_singleton (piece : Piece) (focus : Focus) :
    textOf [piece] focus = String.ofList (piece.chars focus) := by
  simp [textOf]

end SchemaScaffold.Form
