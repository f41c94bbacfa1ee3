import SchemaScaffold.Sql.CreateTable

namespace SchemaScaffold.Sql.Manipulation

open Sql.Parser TableGrammar

def skipping {α : Type} (p : Parser α) : Parser Unit := do let _ ← p

def everything : Parser Unit := set ([] : List Lexeme)

def assignment (inner : Inner) : Parser Unit := do
  if ← atSymbol "(" then skipping bracketedIdentifiers else skipping name
  symbol "="
  skipping inner.expr

def returning (inner : Inner) : Parser Unit := do
  if ← keyword? "RETURNING" then skipping (commaSeparated (Query.selectItem inner))

def orderAndLimit (inner : Inner) : Parser Unit := do
  if ← keywords? ["ORDER", "BY"] then skipping (Expr.orderBy inner)
  if ← keyword? "LIMIT" then skipping inner.expr

def onConflict (inner : Inner) : Parser Unit := do
  unless ← keyword? "ON" do return
  if ← keyword? "DUPLICATE" then
    keywords ["KEY", "UPDATE"]
    skipping (commaSeparated (assignment inner))
  else
    keyword "CONFLICT"
    if ← keywords? ["ON", "CONSTRAINT"] then skipping name
    else if ← atSymbol "(" then skipping bracketedIdentifiers
    keyword "DO"
    unless ← keyword? "NOTHING" do
      keywords ["UPDATE", "SET"]
      skipping (commaSeparated (assignment inner))
      skipping (Query.conditionClause inner "WHERE")

def insert (inner : Inner) : Parser Unit := do
  let isMysql := (← dialect) == .mysql
  if isMysql then
    skipping (oneOf? ["LOW_PRIORITY", "DELAYED", "HIGH_PRIORITY"])
    skipping (keyword? "IGNORE")
  skipping (keyword? "INTO")
  skipping (keyword? "TABLE")
  skipping name
  if !isMysql && (← keyword? "AS") then skipping identifier
  unless ← keywords? ["DEFAULT", "VALUES"] do
    if ← atSymbol "(" then
      let columnList ← attempt (bracketed (commaSeparatedBefore ")" identifier))
      if columnList.isNone then skipping inner.query
    if isMysql && (← keyword? "SET") then skipping (commaSeparated (assignment inner))
    else if ← atOneOf ["SELECT", "VALUES", "VALUE", "WITH", "TABLE"] then skipping inner.query
    else if ← atSymbol "(" then skipping inner.query
    else expected "SELECT, VALUES, or a subquery in the query body"
  if isMysql && (← keyword? "AS") then
    skipping identifier
    if ← atSymbol "(" then skipping bracketedIdentifiers
  onConflict inner
  returning inner

def update (inner : Inner) : Parser Unit := do
  skipping (Query.tables inner)
  keyword "SET"
  skipping (commaSeparated (assignment inner))
  if ← keyword? "FROM" then skipping (Query.tables inner)
  skipping (Query.conditionClause inner "WHERE")
  returning inner
  orderAndLimit inner

def delete (inner : Inner) : Parser Unit := do
  unless ← keyword? "FROM" do
    if (← dialect) == .mysql then
      skipping (commaSeparated name)
      keyword "FROM"
  skipping (Query.tables inner)
  if ← keyword? "USING" then skipping (Query.tables inner)
  skipping (Query.conditionClause inner "WHERE")
  returning inner
  orderAndLimit inner

def dropBehaviour : Parser Unit := skipping (oneOf? ["CASCADE", "RESTRICT"])

def truncate : Parser Unit := do
  skipping (keyword? "TABLE")
  skipping (keywords? ["IF", "EXISTS"])
  let target : Parser Unit := do
    skipping (keyword? "ONLY")
    skipping name
    skipping (symbol? "*")
  skipping (commaSeparated target)
  if (← dialect) == .postgresql then
    unless ← keywords? ["RESTART", "IDENTITY"] do
      skipping (keywords? ["CONTINUE", "IDENTITY"])
    dropBehaviour

def drop : Parser Unit := do
  skipping (keyword? "TEMPORARY")
  skipping (keyword? "MATERIALIZED")
  match ← oneOf? ["TABLE", "VIEW", "INDEX", "ROLE", "SCHEMA", "DATABASE", "SEQUENCE", "STAGE",
      "TYPE", "USER", "FUNCTION", "PROCEDURE", "DOMAIN", "EXTENSION", "TRIGGER", "POLICY"] with
  | some _ => pure ()
  | none => expected "an object type after DROP"
  skipping (keyword? "CONCURRENTLY")
  skipping (keywords? ["IF", "EXISTS"])
  let target : Parser Unit := do
    skipping name
    if ← atSymbol "(" then
      skipping (bracketed (commaSeparatedBefore ")" dataType))
  skipping (commaSeparated target)
  if ← keyword? "ON" then skipping name
  dropBehaviour
  skipping (keyword? "PURGE")

def columnPlace : Parser Unit := do
  unless ← keyword? "FIRST" do
    if ← keyword? "AFTER" then skipping identifier

def alterColumn (inner : Inner) : Parser Unit := do
  skipping identifier
  if (← keywords? ["SET", "NOT", "NULL"]) || (← keywords? ["DROP", "NOT", "NULL"])
      || (← keywords? ["DROP", "DEFAULT"]) then return
  if ← keywords? ["SET", "DEFAULT"] then skipping inner.expr
  else if (← keywords? ["SET", "DATA", "TYPE"]) || (← keyword? "TYPE") then
    skipping dataType
    if ← keyword? "COLLATE" then skipping name
    if ← keyword? "USING" then skipping inner.expr
  else expected "SET/DROP NOT NULL, SET DEFAULT, or SET DATA TYPE after ALTER COLUMN"

def alterOperation (inner : Inner) : Parser Unit := do
  if ← keyword? "ADD" then
    if ← tableConstraint inner then
      skipping (keywords? ["NOT", "VALID"])
    else
      skipping (keyword? "COLUMN")
      skipping (keywords? ["IF", "NOT", "EXISTS"])
      skipping (columnDef inner)
      columnPlace
  else if ← keyword? "DROP" then
    if ← keywords? ["PRIMARY", "KEY"] then dropBehaviour
    else if ← keywords? ["FOREIGN", "KEY"] then skipping identifier; dropBehaviour
    else
      skipping (oneOf? ["COLUMN", "CONSTRAINT", "INDEX", "KEY"])
      skipping (keywords? ["IF", "EXISTS"])
      skipping (commaSeparated identifier)
      dropBehaviour
  else if ← keyword? "RENAME" then
    if ← keyword? "CONSTRAINT" then skipping identifier; keyword "TO"; skipping identifier
    else if (← keyword? "TO") || (← keyword? "AS") then skipping name
    else
      skipping (oneOf? ["COLUMN", "INDEX", "KEY"])
      skipping identifier
      keyword "TO"
      skipping identifier
  else if ← keyword? "CHANGE" then
    skipping (keyword? "COLUMN")
    skipping identifier
    skipping (columnDef inner)
    columnPlace
  else if ← keyword? "MODIFY" then
    skipping (keyword? "COLUMN")
    skipping (columnDef inner)
    columnPlace
  else if ← keyword? "ALTER" then
    skipping (keyword? "COLUMN")
    alterColumn inner
  else if ← keywords? ["OWNER", "TO"] then skipping identifier
  else if ← keywords? ["VALIDATE", "CONSTRAINT"] then skipping identifier
  else if (← oneOf? ["ENABLE", "DISABLE"]).isSome then
    if ← keywords? ["ROW", "LEVEL", "SECURITY"] then return
    skipping (oneOf? ["ALWAYS", "REPLICA"])
    if (← oneOf? ["TRIGGER", "RULE"]).isSome then skipping identifier
    else expected "TRIGGER or RULE"
  else if (← oneOf? ["AUTO_INCREMENT", "ALGORITHM", "LOCK"]).isSome then
    skipping (symbol? "=")
    skipping (next "a value")
  else expected "an operation after ALTER TABLE"

def alter (inner : Inner) : Parser Unit := do
  match ← oneOf? ["TABLE", "VIEW", "TYPE", "INDEX", "ROLE", "SCHEMA", "USER"] with
  | some "TABLE" =>
    skipping (keywords? ["IF", "EXISTS"])
    skipping (keyword? "ONLY")
    skipping name
    skipping (commaSeparated (alterOperation inner))
  | some "INDEX" => skipping name; keywords ["RENAME", "TO"]; skipping name
  | some "VIEW" => skipping name; keyword "AS"; skipping inner.query
  | some _ => skipping name; everything
  | none => expected "an object type after ALTER"

def settingScope : Parser (Option String) := oneOf? ["SESSION", "LOCAL", "GLOBAL"]

def settingSign : Parser Unit := do
  unless (← symbol? "=") || (← keyword? "TO") do expected "equals sign or TO"

def oneSetting (inner : Inner) : Parser Unit := do
  skipping settingScope
  skipping name
  settingSign
  skipping inner.expr

def settingValues (inner : Inner) : Parser Unit := do
  skipping name
  settingSign
  skipping (commaSeparated inner.expr)

/-- Settings, the first word of the statement having been taken. MySQL takes several settings, each
with its own reach, where they have one value each. -/
def setting (inner : Inner) : Parser Unit := do
  let start ← get
  skipping settingScope
  if ← keywords? ["TIME", "ZONE"] then
    unless (← symbol? "=") || (← keyword? "TO") do skipping inner.expr; return
    skipping (commaSeparated inner.expr)
  else if ← keyword? "NAMES" then
    unless ← keyword? "DEFAULT" do
      skipping identifier
      if ← keyword? "COLLATE" then skipping quotedText
  else if (← keyword? "TRANSACTION") || (← keyword? "CHARACTERISTICS")
      || (← keyword? "AUTHORIZATION") then everything
  else if ← keyword? "ROLE" then skipping identifier
  else if (← dialect) == .mysql then
    set start
    match ← attempt (commaSeparated (oneSetting inner)) with
    | some _ => pure ()
    | none => settingValues inner
  else settingValues inner

def lockTables : Parser Unit := do
  let table : Parser Unit := do
    skipping identifier
    skipping (Query.alias? ["READ", "WRITE", "LOW_PRIORITY"])
    if ← keyword? "READ" then skipping (keyword? "LOCAL")
    else if ← keyword? "WRITE" then return
    else if ← keyword? "LOW_PRIORITY" then keyword "WRITE"
    else expected "READ, WRITE or LOW_PRIORITY in LOCK TABLES"
  skipping (commaSeparated table)

def createView (inner : Inner) : Parser Unit := do
  skipping (keywords? ["IF", "NOT", "EXISTS"])
  skipping name
  if ← atSymbol "(" then skipping bracketedIdentifiers
  skipping (settings inner "WITH")
  keyword "AS"
  skipping inner.query
  if ← keyword? "WITH" then
    skipping (oneOf? ["NO", "LOCAL", "CASCADED"])
    if (← oneOf? ["DATA", "CHECK"]).isSome then skipping (keyword? "OPTION")

def createIndex (inner : Inner) : Parser Unit := do
  skipping (keyword? "CONCURRENTLY")
  let mayExist ← keywords? ["IF", "NOT", "EXISTS"]
  if mayExist || !(← atKeyword "ON" 0) then skipping name
  if ← indexType? then pure ()
  keyword "ON"
  skipping name
  skipping indexType?
  indexColumns inner
  if ← keyword? "INCLUDE" then skipping bracketedIdentifiers
  if ← keyword? "NULLS" then
    skipping (keyword? "NOT")
    keyword "DISTINCT"
  skipping (settings inner "WITH")
  skipping (Query.conditionClause inner "WHERE")
  indexOptions

def createSequence (inner : Inner) : Parser Unit := do
  skipping (keywords? ["IF", "NOT", "EXISTS"])
  skipping name
  if ← keyword? "AS" then skipping dataType
  sequenceOptions inner
  if ← keywords? ["OWNED", "BY"] then skipping name

def createType : Parser Unit := do
  skipping name
  if ← keyword? "AS" then
    if ← keyword? "ENUM" then
      skipping (bracketed (commaSeparatedBefore ")" identifier))
    else
      let field : Parser Unit := do
        skipping identifier
        skipping dataType
        if ← keyword? "COLLATE" then skipping name
      skipping (bracketed (commaSeparatedBefore ")" field))

def functionArgument (inner : Inner) : Parser Unit := do
  skipping (oneOf? ["IN", "OUT", "INOUT"])
  skipping dataType
  unless (← atSymbol ",") || (← atSymbol ")") || (← atSymbol "=")
      || (← atKeyword "DEFAULT" 0) do
    skipping dataType
  if (← keyword? "DEFAULT") || (← symbol? "=") then skipping inner.expr

def createFunction (inner : Inner) : Parser Unit := do
  skipping name
  skipping (bracketed (commaSeparatedBefore ")" (functionArgument inner)))
  if ← keyword? "RETURNS" then
    if ← keyword? "TABLE" then
      let column : Parser Unit := do
        skipping identifier
        skipping dataType
      skipping (bracketed (commaSeparated column))
    else skipping dataType
  let _ ← repeated (do
    if ← keyword? "AS" then
      match ← next "a function body" with
      | .singleQuoted _ | .dollarQuoted .. | .escapedLiteral _ =>
        if ← symbol? "," then skip
        return some ()
      | _ => expected "a function body"
    if ← keyword? "LANGUAGE" then
      skipping identifier
      return some ()
    if (← oneOf? ["IMMUTABLE", "STABLE", "VOLATILE", "STRICT"]).isSome then return some ()
    let phrases := [["CALLED", "ON", "NULL", "INPUT"], ["RETURNS", "NULL", "ON", "NULL", "INPUT"],
      ["PARALLEL", "UNSAFE"], ["PARALLEL", "RESTRICTED"], ["PARALLEL", "SAFE"],
      ["SECURITY", "DEFINER"], ["SECURITY", "INVOKER"]]
    for phrase in phrases do
      if ← keywords? phrase then return some ()
    if ← keyword? "RETURN" then
      skipping inner.expr
      return some ()
    return none)

end SchemaScaffold.Sql.Manipulation
