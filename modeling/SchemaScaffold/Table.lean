import SchemaScaffold.Column

namespace SchemaScaffold

structure Table where
  name : String
  className : String
  comment : String
  primaryKeyType : JavaType
  primaryKeyColumn : Option String
  columns : List Column
  imports : List String
  deriving DecidableEq, Repr, Inhabited

def insertSorted (s : String) : List String → List String
  | [] => [s]
  | t :: rest =>
    if s < t then s :: t :: rest
    else if s == t then t :: rest
    else t :: insertSorted s rest

def sortedSet (texts : List String) : List String := texts.foldr insertSorted []

namespace Table

/-- Puts a table together. The first column flagged as a primary key decides on the key; a table
without one gets a key of type `Long`. There is no table when the name leaves no class name. -/
def make (rawName : String) (comment : Option String) (columns : List Column) : Result Table :=
  let name := Naming.stripQuotes rawName
  let className := Naming.typeName name
  if className.isEmpty then .error (.schema (.tableName name))
  else
    let key := columns.find? (·.isPrimaryKey)
    .ok {
      name, className, columns
      comment := Text.withoutApostrophes (comment.getD "")
      primaryKeyType := (key.map (·.javaType)).getD .long
      primaryKeyColumn := key.map (·.name)
      imports := sortedSet (columns.filterMap Column.requiredImport) }

def column? (table : Table) (name : String) : Option Column :=
  table.columns.find? (·.name == name)

def primaryKey (table : Table) : Option Column := table.primaryKeyColumn.bind table.column?

end Table

end SchemaScaffold
