import SchemaScaffold.Sql.Name

/-!
# Data types

A data type is kept as its text in normal form: the words of known types in upper case, one space
apart, arguments in brackets right behind the name, modifiers behind the arguments. The name of an
unknown type stays as it was written.
-/

namespace SchemaScaffold.Sql.DataType

open Sql.Parser

def inBrackets : Option String → String
  | some s => "(" ++ s ++ ")"
  | none => ""

def precision : Parser String := do
  return inBrackets ((← bracketed? natural).map toString)

def signedNumber : Parser String := do
  if ← symbol? "-" then
    let n ← natural
    return if n == 0 then "0" else "-" ++ toString n
  else
    let _ ← symbol? "+"
    return toString (← natural)

def precisionAndScale : Parser String := do
  let inner : Parser String := do
    let p ← natural
    if ← symbol? "," then return toString p ++ "," ++ (← signedNumber) else return toString p
  return inBrackets (← bracketed? inner)

def characterLength : Parser String := do
  let inner : Parser String := do
    if ← keyword? "MAX" then return "MAX"
    let n ← natural
    match ← oneOf? ["CHARACTERS", "OCTETS"] with
    | some unit => return toString n ++ " " ++ unit
    | none => return toString n
  return inBrackets (← bracketed? inner)

def binaryLength : Parser String := do
  let inner : Parser String := do
    if ← keyword? "MAX" then return "MAX" else return toString (← natural)
  return inBrackets (← bracketed? inner)

def unsigned : Parser String := do return if ← keyword? "UNSIGNED" then " UNSIGNED" else ""

def enumValues : Parser String := do
  let value : Parser String := do
    let text := Literal.write '\'' (← quotedText)
    if ← symbol? "=" then
      match ← next "a number" with
      | .number digits _ => return text ++ " = " ++ digits
      | _ => expected "a number"
    else return text
  return "(" ++ commaList (← bracketed (commaSeparated value)) ++ ")"

def setValues : Parser String := do
  let value : Parser String := do
    match ← next "a string" with
    | .singleQuoted text => return Literal.write '\'' text
    | _ => expected "a string"
  return "(" ++ commaList (← bracketed (commaSeparated value)) ++ ")"

def timeZone : Parser String := do
  if ← keyword? "WITH" then keywords ["TIME", "ZONE"]; return " WITH TIME ZONE"
  else if ← keyword? "WITHOUT" then keywords ["TIME", "ZONE"]; return " WITHOUT TIME ZONE"
  else return ""

def intervalFields : Parser String := do
  let ranges := [["YEAR", "TO", "MONTH"], ["DAY", "TO", "HOUR"], ["DAY", "TO", "MINUTE"],
    ["DAY", "TO", "SECOND"], ["HOUR", "TO", "MINUTE"], ["HOUR", "TO", "SECOND"],
    ["MINUTE", "TO", "SECOND"], ["YEAR"], ["MONTH"], ["DAY"], ["HOUR"], ["MINUTE"], ["SECOND"]]
  for range in ranges do
    if ← keywords? range then return " " ++ " ".intercalate range
  return ""

def modifiers : Parser String := do
  unless ← symbol? "(" do return ""
  let args ← repeated (do
    match ← next "type modifiers" with
    | .word text quote _ => return some (some (Identifier.render ⟨text, quote⟩))
    | .number digits _ => return some (some digits)
    | .singleQuoted text => return some (some text)
    | .symbol "," => return some none
    | .symbol ")" => return none
    | _ => expected "type modifiers")
  let args := args.filterMap id
  return if args.isEmpty then "" else inBrackets (some (commaList args))

def integerTypes : List String :=
  ["TINYINT", "INT2", "SMALLINT", "MEDIUMINT", "INT", "INT4", "INT8", "INTEGER", "BIGINT"]

def plainTypes : List String :=
  ["BOOLEAN", "BOOL", "FLOAT4", "FLOAT8", "FLOAT32", "FLOAT64", "INT16", "INT32", "INT64",
   "INT128", "INT256", "HUGEINT", "UBIGINT", "UHUGEINT", "USMALLINT", "UTINYINT", "UINT8",
   "UINT16", "UINT32", "UINT64", "UINT128", "UINT256", "TINYBLOB", "MEDIUMBLOB", "LONGBLOB",
   "UUID", "DATE", "DATE32", "JSON", "JSONB", "REGCLASS", "TEXT", "TINYTEXT", "MEDIUMTEXT",
   "LONGTEXT", "BYTEA", "TRIGGER"]

def precisionTypes : List String :=
  ["CLOB", "BINARY", "BLOB", "BYTES", "VARBIT", "DATETIME", "TIMESTAMPTZ", "TIMETZ",
   "TIMESTAMP_NTZ", "STRING"]

def unsignedDecimalTypes : List String := ["FLOAT", "REAL", "DECIMAL", "DEC"]

def decimalTypes : List String := ["NUMERIC", "BIGNUMERIC", "BIGDECIMAL"]

def postgresTypes : List String := ["TSVECTOR", "TSQUERY"]

/-- Types of shapes, which only PostgreSQL knows. Their names stay in lower case. -/
def shapeTypes : List String := ["POINT", "LINE", "LSEG", "BOX", "PATH", "POLYGON", "CIRCLE"]

def signedTypes : List String :=
  ["TINYINT", "SMALLINT", "MEDIUMINT", "INT", "INTEGER", "BIGINT"]

def custom : Parser String := do
  let typeName ← name
  return Name.render typeName ++ (← modifiers)

def integerType (first : String) : Parser String := do
  let width ← precision
  let sign ← unsigned
  if sign.isEmpty && signedTypes.contains first && (← dialect) == .mysql then
    let _ ← keyword? "SIGNED"
  return first ++ width ++ sign

def characterType (first : String) : Parser String := do
  if ← keyword? "VARYING" then return first ++ " VARYING" ++ (← characterLength)
  else if ← keywords? ["LARGE", "OBJECT"] then return first ++ " LARGE OBJECT" ++ (← precision)
  else return first ++ (← characterLength)

def known (k : String) : Parser (Option String) := do
  if integerTypes.contains k then return some (← integerType k)
  else if plainTypes.contains k then return some k
  else if precisionTypes.contains k then return some (k ++ (← precision))
  else if unsignedDecimalTypes.contains k then
    if k == "REAL" then return some (k ++ (← unsigned))
    else return some (k ++ (← precisionAndScale) ++ (← unsigned))
  else if decimalTypes.contains k then return some (k ++ (← precisionAndScale))
  else if postgresTypes.contains k && (← dialect) == .postgresql then return some k
  else if shapeTypes.contains k && (← dialect) == .postgresql then return some (Text.lower k)
  else match k with
    | "DOUBLE" =>
      if ← keyword? "PRECISION" then return some ("DOUBLE PRECISION" ++ (← unsigned))
      else return some ("DOUBLE" ++ (← precisionAndScale) ++ (← unsigned))
    | "VARCHAR" | "NVARCHAR" => return some (k ++ (← characterLength))
    | "CHARACTER" | "CHAR" => return some (← characterType k)
    | "VARBINARY" => return some ("VARBINARY" ++ (← binaryLength))
    | "BIT" =>
      if ← keyword? "VARYING" then return some ("BIT VARYING" ++ (← precision))
      else return some ("BIT" ++ (← precision))
    | "TIMESTAMP" | "TIME" => return some (k ++ (← precision) ++ (← timeZone))
    | "INTERVAL" =>
      if (← dialect) == .postgresql then
        return some ("INTERVAL" ++ (← intervalFields) ++ (← precision))
      else return some "INTERVAL"
    | "ENUM" => return some ("ENUM" ++ (← enumValues))
    | "ENUM8" => return some ("ENUM8" ++ (← enumValues))
    | "ENUM16" => return some ("ENUM16" ++ (← enumValues))
    | "SET" => return some ("SET" ++ (← setValues))
    | "SIGNED" => return some (if ← keyword? "INTEGER" then "SIGNED INTEGER" else "SIGNED")
    | "UNSIGNED" => return some (if ← keyword? "INTEGER" then "UNSIGNED INTEGER" else "UNSIGNED")
    | "ARRAY" => expected "<"
    | "TABLE" => if ← atSymbol "(" then expected "a data type name" else return some "TABLE"
    | "ANY" => if ← keyword? "TYPE" then return some "ANY TYPE" else return none
    | _ => return none

def arraySuffix : Parser String := do
  unless (← dialect) == .postgresql do return ""
  let parts ← repeated (do
    unless ← symbol? "[" do return none
    let size ← attempt natural
    symbol "]"
    return some ("[" ++ (size.map toString).getD "" ++ "]"))
  return String.join parts

def scalar : Parser String := do
  match ← peek with
  | some (.word _ none k) =>
    let start ← get
    skip
    match ← known k with
    | some text => return text
    | none => set start; custom
  | some (.word ..) => custom
  | _ => expected "a data type name"

end DataType

/-- A data type, as its text in normal form. -/
def dataType : Parser String := do
  -- `SETOF` may stand before a type any number of times
  let sets ← Parser.repeated (do
    if ← Parser.keyword? "SETOF" then return some "SETOF " else return none)
  let text ← DataType.scalar
  return String.join sets ++ text ++ (← DataType.arraySuffix)

end SchemaScaffold.Sql
