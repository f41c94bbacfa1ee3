import SchemaScaffold.Error
import SchemaScaffold.JavaType
import SchemaScaffold.Naming
import SchemaScaffold.Text.Digits

namespace SchemaScaffold

/-- What is declared about a column. Setting a field again replaces what was there. -/
structure ColumnDraft where
  name : String
  baseType : String
  length : Option String := none
  nullable : Bool := true
  isPrimaryKey : Bool := false
  defaultValue : Option String := none
  comment : String := ""
  deriving DecidableEq, Repr, Inhabited

structure Column where
  name : String
  propertyName : String
  rawType : String
  javaType : JavaType
  length : Option String
  maxLength : Option Nat
  nullable : Bool
  isPrimaryKey : Bool
  defaultValue : Option String
  comment : String
  deriving DecidableEq, Repr, Inhabited

def Text.without (p : Char → Bool) (s : String) : String :=
  String.ofList (s.toList.filter fun c => !p c)

def Text.withoutApostrophes (s : String) : String := Text.without (· == '\'') s

namespace ColumnDraft

/-- Sets the arguments of the type; blanks in them are dropped, and blank arguments are none. -/
def withLength (draft : ColumnDraft) (length : String) : ColumnDraft :=
  let kept := Text.without Text.isBlank length
  { draft with length := if kept.isEmpty then none else some kept }

def withNullable (draft : ColumnDraft) (nullable : Bool) : ColumnDraft := { draft with nullable }

def withPrimaryKey (draft : ColumnDraft) (isPrimaryKey : Bool) : ColumnDraft :=
  { draft with isPrimaryKey }

def withDefault (draft : ColumnDraft) (value : String) : ColumnDraft :=
  { draft with defaultValue := some (Text.without (fun c => c == '\'' || c == '"') value) }

def withComment (draft : ColumnDraft) (comment : String) : ColumnDraft :=
  { draft with comment := Text.withoutApostrophes comment }

/-- The length that arguments give: a number below `2 ^ 32`, which may carry a plus sign. -/
def maxLength? (length : String) : Option Nat :=
  (Text.natural? length.toList).filter (· < Nat.pow 2 32)

def build (draft : ColumnDraft) : Result Column :=
  let name := Naming.stripQuotes draft.name
  let propertyName := Naming.propertyName name
  if propertyName.isEmpty then .error (.schema (.columnName draft.name))
  else
    let base := Text.lower (Text.trim draft.baseType)
    .ok {
      name, propertyName
      rawType := match draft.length with
        | some length => base ++ "(" ++ length ++ ")"
        | none => base
      javaType := JavaType.ofColumnType base
      length := draft.length
      maxLength := draft.length.bind maxLength?
      nullable := draft.nullable
      isPrimaryKey := draft.isPrimaryKey
      defaultValue := draft.defaultValue
      comment := draft.comment }

end ColumnDraft

namespace Column

def requiredImport (column : Column) : Option String := column.javaType.importPath

def needsNotNull (column : Column) : Bool := !column.nullable

def needsSize (column : Column) : Bool := column.maxLength.isSome && column.javaType == .string

def needsValidation (column : Column) : Bool := column.needsNotNull || column.needsSize

end Column

end SchemaScaffold
