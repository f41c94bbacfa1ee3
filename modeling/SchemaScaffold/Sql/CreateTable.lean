import SchemaScaffold.Sql.Query

namespace SchemaScaffold.Sql

inductive ColumnOption where
  | notNull
  | null
  | default (expr : String)
  | primaryKey
  | comment (text : String)
  | other
  deriving DecidableEq, Repr

structure ColumnDef where
  name : Identifier
  dataType : String
  options : List ColumnOption
  deriving Repr

structure CreateTable where
  name : Name
  columns : List ColumnDef
  deriving Repr

namespace TableGrammar

open Sql.Parser

def referentialAction : Parser Unit := do
  let forms := [["RESTRICT"], ["CASCADE"], ["SET", "NULL"], ["NO", "ACTION"], ["SET", "DEFAULT"]]
  for form in forms do
    if ← keywords? form then return
  expected "one of RESTRICT, CASCADE, SET NULL, NO ACTION or SET DEFAULT"

def characteristics : Parser Unit := do
  let forms := [["NOT", "DEFERRABLE"], ["DEFERRABLE"], ["INITIALLY", "DEFERRED"],
    ["INITIALLY", "IMMEDIATE"], ["ENFORCED"], ["NOT", "ENFORCED"]]
  let _ ← repeated (do
    for form in forms do
      if ← keywords? form then return some ()
    return none)

def reference : Parser Unit := do
  let _ ← name
  if ← atSymbol "(" then let _ ← bracketedIdentifiers
  let _ ← repeated (do
    if ← keyword? "MATCH" then
      match ← oneOf? ["FULL", "PARTIAL", "SIMPLE"] with
      | some _ => return some ()
      | none => expected "one of FULL, PARTIAL or SIMPLE"
    else if (← keywords? ["ON", "DELETE"]) || (← keywords? ["ON", "UPDATE"]) then
      referentialAction
      return some ()
    else return none)
  characteristics

def commentText : Parser String := do
  match ← peek with
  | some (.singleQuoted text) | some (.dollarQuoted text _) => skip; return text
  | _ => expected "string literal"

def optionExpr (inner : Inner) : Parser String := do
  if ← atSymbol "(" then inExpression (Expr.operand inner) else inner.expr

def sequenceOptions (inner : Inner) : Parser Unit := do
  let _ ← repeated (do
    if ← keyword? "INCREMENT" then
      let _ ← keyword? "BY"
      let _ ← inner.expr
      return some ()
    else if (← keywords? ["NO", "MINVALUE"]) || (← keywords? ["NO", "MAXVALUE"])
        || (← keywords? ["NO", "CYCLE"]) || (← keyword? "CYCLE") then return some ()
    else if (← keyword? "MINVALUE") || (← keyword? "MAXVALUE") || (← keyword? "CACHE") then
      let _ ← inner.expr
      return some ()
    else if ← keyword? "START" then
      let _ ← keyword? "WITH"
      let _ ← inner.expr
      return some ()
    else return none)

def generated (inner : Inner) : Parser (Option ColumnOption) := do
  let isIdentity ← do
    if ← keywords? ["ALWAYS", "AS", "IDENTITY"] then pure true
    else keywords? ["BY", "DEFAULT", "AS", "IDENTITY"]
  if isIdentity then
    if ← symbol? "(" then
      sequenceOptions inner
      symbol ")"
    return some .other
  if ← keywords? ["ALWAYS", "AS"] then
    unless ← symbol? "(" do return none
    let _ ← inExpression inner.expr
    symbol ")"
    if ← keyword? "STORED" then return some .other
    if (← dialect) == .postgresql then expected "STORED"
    let _ ← keyword? "VIRTUAL"
    return some .other
  return none

/-- An option that only MySQL has. Elsewhere its words are taken all the same, but they are no
option, so that they end the options of the column. -/
def mysqlOption (words : List String) (rest : Parser Unit) :
    Parser (Option (Option ColumnOption)) := do
  unless ← keywords? words do return none
  if (← dialect) == .mysql then rest; return some (some .other) else return some none

/-- An option of a column, if one comes next. A few words of other dialects are taken here and end
the options of the column. -/
def columnOption (inner : Inner) : Parser (Option ColumnOption) := do
  if ← keywords? ["CHARACTER", "SET"] then let _ ← name; return some .other
  if ← keyword? "COLLATE" then let _ ← name; return some .other
  if ← keywords? ["NOT", "NULL"] then return some .notNull
  if ← keyword? "COMMENT" then return some (.comment (← commentText))
  if ← keyword? "NULL" then return some .null
  if ← keyword? "DEFAULT" then return some (.default (← optionExpr inner))
  if ← keywords? ["PRIMARY", "KEY"] then characteristics; return some .primaryKey
  if ← keyword? "UNIQUE" then characteristics; return some .other
  if ← keyword? "REFERENCES" then reference; return some .other
  if ← keyword? "CHECK" then
    let _ ← bracketed (inExpression inner.expr)
    return some .other
  if let some option ← mysqlOption ["AUTO_INCREMENT"] (pure ()) then return option
  for word in ["AUTOINCREMENT", "ASC", "DESC"] do
    let _ ← keyword? word
  if let some option ← mysqlOption ["ON", "UPDATE"] (do let _ ← optionExpr inner) then
    return option
  if ← keyword? "GENERATED" then return ← generated inner
  let computed : Parser Unit := do
    let _ ← bracketed inner.expr
    let _ ← oneOf? ["STORED", "VIRTUAL"]
  if let some option ← mysqlOption ["AS"] computed then return option
  if let some option ← mysqlOption ["SRID"] (do let _ ← optionExpr inner) then return option
  if ← keyword? "IDENTITY" then return none
  if ← keyword? "INVISIBLE" then return some .other
  return none

def columnOptions (inner : Inner) : Parser (List ColumnOption) :=
  repeated (do
    if ← keyword? "CONSTRAINT" then
      let _ ← identifier
      match ← inColumnOption (columnOption inner) with
      | some option => return some option
      | none => expected "constraint details after CONSTRAINT <name>"
    else inColumnOption (columnOption inner))

def columnDef (inner : Inner) : Parser ColumnDef := do
  let columnName ← identifier
  let type ← dataType
  return ⟨columnName, type, ← columnOptions inner⟩

def indexColumns (inner : Inner) : Parser Unit := do
  let column : Parser Unit := do
    let _ ← inner.expr
    unless ← atOneOf ["ASC", "DESC", "NULLS", "WITH"] do
      let _ ← attempt name
    let _ ← Expr.orderOptions
  let _ ← bracketed (commaSeparated column)

def indexType? : Parser Bool := do
  if ← keyword? "USING" then let _ ← identifier; return true else return false

def indexOptions : Parser Unit := do
  let _ ← repeated (do
    if ← indexType? then return some ()
    else if ← keyword? "COMMENT" then let _ ← quotedText; return some ()
    else return none)

def tableConstraint (inner : Inner) : Parser Bool := do
  let isMysql := (← dialect) == .mysql
  let isNamed ← do
    if ← keyword? "CONSTRAINT" then
      let unnamed ← atOneOf ["CHECK", "PRIMARY", "UNIQUE", "FOREIGN"]
      unless isMysql && unnamed do let _ ← identifier
      pure true
    else pure false
  if ← keyword? "UNIQUE" then
    let kind ← oneOf? ["KEY", "INDEX"]
    if !isMysql && kind.isSome then expected "`index_name` or `(column_name [, ...])`"
    if ← keywords? ["NULLS", "DISTINCT"] then pure ()
    else let _ ← keywords? ["NULLS", "NOT", "DISTINCT"]
    let _ ← identifier?
    let _ ← indexType?
    indexColumns inner
    indexOptions
    characteristics
    return true
  if ← keyword? "PRIMARY" then
    keyword "KEY"
    let _ ← identifier?
    let _ ← indexType?
    indexColumns inner
    indexOptions
    characteristics
    return true
  if ← keyword? "FOREIGN" then
    keyword "KEY"
    let _ ← identifier?
    let _ ← bracketedIdentifiers
    keyword "REFERENCES"
    reference
    return true
  if ← keyword? "CHECK" then
    let _ ← bracketed inner.expr
    unless ← keyword? "ENFORCED" do
      let _ ← keywords? ["NOT", "ENFORCED"]
    return true
  if isMysql && !isNamed then
    if (← oneOf? ["INDEX", "KEY"]).isSome then
      unless ← atKeyword "USING" 0 do
        let _ ← identifier?
      let _ ← indexType?
      indexColumns inner
      indexOptions
      return true
    if (← oneOf? ["FULLTEXT", "SPATIAL"]).isSome then
      let _ ← oneOf? ["KEY", "INDEX"]
      let _ ← identifier?
      indexColumns inner
      return true
  if isNamed then expected "PRIMARY, UNIQUE, FOREIGN, or CHECK"
  return false

def entry (inner : Inner) : Parser (Option ColumnDef) := do
  if ← tableConstraint inner then return none
  if ← atWord then return some (← columnDef inner)
  expected "column name or constraint definition"

def columns (inner : Inner) : Parser (List ColumnDef) := do
  unless ← symbol? "(" do return []
  if ← symbol? ")" then return []
  let first ← entry inner
  let others ← repeated (do
    if ← symbol? "," then return some (← entry inner)
    else if ← symbol? ")" then return none
    else expected "',' or ')' after column definition")
  return (first :: others).filterMap id

def valueOptions : List (List String) :=
  [["DEFAULT", "CHARSET"], ["CHARSET"], ["DEFAULT", "CHARACTER", "SET"], ["CHARACTER", "SET"],
   ["DEFAULT", "COLLATE"], ["COLLATE"], ["DATA", "DIRECTORY"], ["INDEX", "DIRECTORY"],
   ["KEY_BLOCK_SIZE"], ["ROW_FORMAT"], ["PACK_KEYS"], ["STATS_AUTO_RECALC"],
   ["STATS_PERSISTENT"], ["STATS_SAMPLE_PAGES"], ["DELAY_KEY_WRITE"], ["COMPRESSION"],
   ["ENCRYPTION"], ["MAX_ROWS"], ["MIN_ROWS"], ["AUTOEXTEND_SIZE"], ["AVG_ROW_LENGTH"],
   ["CHECKSUM"], ["CONNECTION"], ["ENGINE_ATTRIBUTE"], ["PASSWORD"],
   ["SECONDARY_ENGINE_ATTRIBUTE"], ["INSERT_METHOD"], ["AUTO_INCREMENT"]]

def tableOption : Parser (Option Unit) := do
  if ← keywords? ["START", "TRANSACTION"] then return some ()
  if ← keyword? "COMMENT" then
    let _ ← symbol? "="
    match ← next "Token::SingleQuotedString" with
    | .singleQuoted _ => return some ()
    | _ => expected "Token::SingleQuotedString"
  if ← keyword? "ENGINE" then
    let _ ← symbol? "="
    unless ← atWord do expected "Token::Word"
    skip
    if ← atSymbol "(" then let _ ← bracketedIdentifiers
    return some ()
  if ← keyword? "TABLESPACE" then
    let _ ← symbol? "="
    match ← next "Token::Word" with
    | .word .. | .singleQuoted _ => pure ()
    | _ => expected "Token::Word"
    if ← keyword? "STORAGE" then
      let _ ← symbol? "="
      if (← oneOf? ["DISK", "MEMORY"]).isNone then expected "Storage type (DISK or MEMORY)"
    return some ()
  if ← keyword? "UNION" then
    let _ ← symbol? "="
    let _ ← bracketed (commaSeparatedBefore ")" identifier)
    return some ()
  for key in valueOptions do
    if ← keywords? key then
      let _ ← symbol? "="
      match ← attempt literalValue with
      | some _ => return some ()
      | none => let _ ← identifier; return some ()
  return none

def tableOptions : Parser Unit := do
  let _ ← repeated (do
    match ← tableOption with
    | some _ => let _ ← symbol? ","; return some ()
    | none => return none)

def settings (inner : Inner) (word : String) : Parser Bool := do
  unless ← keyword? word do return false
  let setting : Parser Unit := do
    let _ ← identifier
    symbol "="
    let _ ← inner.expr
  let all ← bracketed (commaSeparatedBefore ")" setting)
  return !all.isEmpty

def configuration (inner : Inner) : Parser Unit := do
  let _ ← keywords? ["WITHOUT", "ROWID"]
  if ← keywords? ["PARTITIONED", "BY"] then let _ ← columns inner
  if ← keyword? "INHERITS" then let _ ← bracketed (commaSeparated name)
  let hasSettings ← settings inner "WITH"
  let hasProperties ← settings inner "TBLPROPERTIES"
  if (← dialect) == .postgresql && (← keywords? ["PARTITION", "BY"]) then let _ ← inner.expr
  unless hasSettings || hasProperties do tableOptions
  if ← keywords? ["ON", "COMMIT"] then
    unless (← keyword? "DROP") || (← keywords? ["PRESERVE", "ROWS"])
        || (← keywords? ["DELETE", "ROWS"]) do expected "DROP"
  let _ ← keyword? "STRICT"

def definition (inner : Inner) : Parser CreateTable := do
  let _ ← keywords? ["IF", "NOT", "EXISTS"]
  let tableName ← name
  if (← oneOf? ["LIKE", "ILIKE"]).isSome then let _ ← name
  let declared ← columns inner
  configuration inner
  if ← keyword? "AS" then let _ ← inner.query
  else if (← dialect) == .mysql && (← atKeyword "SELECT" 0) then let _ ← inner.query
  return ⟨tableName, declared⟩

end TableGrammar

end SchemaScaffold.Sql
