import SchemaScaffold.Text.Blank
import SchemaScaffold.Text.CaseMap

/-!
# Java types

The Java types of generated fields and the map that gives every column type one of them. Only the
name of a column type counts: its arguments are cut off, and a name of several words that the
table does not list is looked up by its first word.
-/

namespace SchemaScaffold

open SchemaScaffold.Text

inductive JavaType where
  | string
  | short
  | integer
  | long
  | float
  | double
  | boolean
  | bigDecimal
  | localDate
  | localDateTime
  | localTime
  | byteArray
  /-- Stands for every column type that the table does not list. -/
  | object
  deriving DecidableEq, Repr, Inhabited

namespace JavaType

def all : List JavaType :=
  [string, short, integer, long, float, double, boolean, bigDecimal, localDate, localDateTime,
   localTime, byteArray, object]

def label : JavaType → String
  | string => "String"
  | short => "Short"
  | integer => "Integer"
  | long => "Long"
  | float => "Float"
  | double => "Double"
  | boolean => "Boolean"
  | bigDecimal => "BigDecimal"
  | localDate => "LocalDate"
  | localDateTime => "LocalDateTime"
  | localTime => "LocalTime"
  | byteArray => "ByteArray"
  | object => "Object"

def source : JavaType → String
  | byteArray => "byte[]"
  | type => type.label

def importPath : JavaType → Option String
  | bigDecimal => some "java.math.BigDecimal"
  | localDate => some "java.time.LocalDate"
  | localDateTime => some "java.time.LocalDateTime"
  | localTime => some "java.time.LocalTime"
  | _ => none

def ofSource? (name : String) : Option JavaType := all.find? (·.source == name)

def requiredImport (name : String) : Option String := (ofSource? name).bind importPath

def columnTypes : List (String × JavaType) :=
  [("varchar", string), ("char", string), ("character", string), ("character varying", string),
   ("nvarchar", string), ("nchar", string), ("text", string), ("tinytext", string),
   ("mediumtext", string), ("longtext", string), ("enum", string), ("set", string),
   ("json", string), ("jsonb", string), ("uuid", string),
   ("tinyint", integer), ("smallint", integer), ("mediumint", integer), ("int", integer),
   ("integer", integer), ("int4", integer), ("bigint", long), ("int8", long),
   ("serial", integer), ("bigserial", long), ("smallserial", short),
   ("float", float), ("real", float), ("double", double), ("double precision", double),
   ("decimal", bigDecimal), ("numeric", bigDecimal),
   ("date", localDate), ("datetime", localDateTime), ("timestamp", localDateTime),
   ("timestamptz", localDateTime), ("time", localTime),
   ("boolean", boolean), ("bool", boolean), ("bit", boolean),
   ("bytea", byteArray), ("binary", byteArray), ("varbinary", byteArray), ("blob", byteArray),
   ("tinyblob", byteArray), ("mediumblob", byteArray), ("longblob", byteArray)]

def baseWords (columnType : String) : List (List Char) :=
  words ((lowerList (trimList columnType.toList)).takeWhile (· != '('))

def joinWords (ws : List (List Char)) : String := String.ofList (List.intercalate [' '] ws)

def baseName (columnType : String) : String := joinWords (baseWords columnType)

/-- The Java type of a column type, by its whole name or else by the first word of it. -/
def ofColumnType (columnType : String) : JavaType :=
  let ws := baseWords columnType
  ((columnTypes.lookup (joinWords ws)).or (columnTypes.lookup (joinWords (ws.take 1)))).getD object

end JavaType

end SchemaScaffold
