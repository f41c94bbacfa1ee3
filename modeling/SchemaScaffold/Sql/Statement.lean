import SchemaScaffold.Sql.Manipulation

namespace SchemaScaffold.Sql

inductive CommentTarget where
  | table
  | column
  | other
  deriving DecidableEq, Repr

inductive Statement where
  | createTable (definition : CreateTable)
  /-- A comment on an object; without a text it removes the comment. -/
  | comment (target : CommentTarget) (name : Name) (text : Option String)
  | other
  deriving Repr

namespace Statement

open Sql.Parser Manipulation

def commentKinds : List String :=
  ["COLUMN", "DATABASE", "DOMAIN", "EXTENSION", "FUNCTION", "INDEX", "MATERIALIZED", "PROCEDURE",
   "ROLE", "SCHEMA", "SEQUENCE", "TABLE", "TYPE", "USER", "VIEW"]

def commentOn : Parser Statement := do
  skipping (keywords? ["IF", "EXISTS"])
  keyword "ON"
  let kind ← oneOf? commentKinds
  let target ← match kind with
    | some "TABLE" => pure CommentTarget.table
    | some "COLUMN" => pure CommentTarget.column
    | some "MATERIALIZED" => do keyword "VIEW"; pure CommentTarget.other
    | some _ => pure CommentTarget.other
    | none => expected "comment object_type"
  let object ← name
  keyword "IS"
  let text ← if ← keyword? "NULL" then pure none else pure (some (← quotedText))
  return .comment target object text

def create (inner : Inner) : Parser Statement := do
  let replaces ← do
    if ← keywords? ["OR", "REPLACE"] then pure true else keywords? ["OR", "ALTER"]
  skipping (keyword? "LOCAL")
  skipping (keyword? "GLOBAL")
  skipping (keyword? "TRANSIENT")
  skipping (oneOf? ["TEMP", "TEMPORARY"])
  if ← keyword? "ALGORITHM" then
    symbol "="
    skipping (oneOf? ["UNDEFINED", "MERGE", "TEMPTABLE"])
  if ← keyword? "DEFINER" then
    symbol "="
    skipping name
    if ← symbol? "@" then skipping identifier
  if ← keywords? ["SQL", "SECURITY"] then skipping (oneOf? ["DEFINER", "INVOKER"])
  if ← keyword? "TABLE" then return .createTable (← TableGrammar.definition inner)
  if ← keyword? "MATERIALIZED" then keyword "VIEW"; createView inner; return .other
  if ← keyword? "VIEW" then createView inner; return .other
  if ← keyword? "FUNCTION" then createFunction inner; return .other
  if replaces then
    expected "[EXTERNAL] TABLE or [MATERIALIZED] VIEW or FUNCTION after CREATE OR REPLACE"
  if ← keyword? "INDEX" then createIndex inner; return .other
  if ← keywords? ["UNIQUE", "INDEX"] then createIndex inner; return .other
  if ← keyword? "SEQUENCE" then createSequence inner; return .other
  if ← keyword? "TYPE" then createType; return .other
  if (← oneOf? ["SCHEMA", "DATABASE"]).isSome then
    skipping (keywords? ["IF", "NOT", "EXISTS"])
    skipping name
    TableGrammar.tableOptions
    return .other
  if ← keyword? "EXTENSION" then
    skipping (keywords? ["IF", "NOT", "EXISTS"])
    skipping identifier
    everything
    return .other
  if (← oneOf? ["ROLE", "USER", "DOMAIN", "TRIGGER", "PROCEDURE", "POLICY"]).isSome then
    skipping name
    everything
    return .other
  expected "an object type after CREATE"

/-- Words that begin statements of which nothing more is read. -/
def unreadWords : List String :=
  ["KILL", "FLUSH", "DESC", "DESCRIBE", "EXPLAIN", "ANALYZE", "SHOW", "GRANT", "REVOKE", "START",
   "BEGIN", "END", "SAVEPOINT", "RELEASE", "COMMIT", "ROLLBACK", "DEALLOCATE", "EXECUTE", "EXEC",
   "PREPARE", "CALL", "VACUUM", "RESET", "DISCARD", "DECLARE", "FETCH", "CLOSE", "COPY", "RENAME",
   "MERGE", "PRAGMA", "ATTACH", "MSCK", "CACHE", "UNCACHE", "ASSERT", "PRINT", "RETURN", "LOAD",
   "UNLOAD", "OPEN", "DENY", "RAISERROR", "RAISE", "CASE", "IF", "WHILE", "EXPORT", "WAITFOR"]

def statement : Parser Statement := do
  let inner := Inner.top
  let isMysql := (← dialect) == .mysql
  if isMysql then
    if ← keywords? ["LOCK", "TABLES"] then lockTables; return .other
    if ← keywords? ["UNLOCK", "TABLES"] then return .other
    if ← keyword? "REPLACE" then insert inner; return .other
  if ← atSymbol "(" then skipping inner.query; return .other
  if ← atOneOf ["SELECT", "WITH", "VALUES", "FROM"] then skipping inner.query; return .other
  if !isMysql && (← keyword? "COMMENT") then return ← commentOn
  if ← keyword? "CREATE" then return ← create inner
  let forms : List (String × Parser Unit) :=
    [("TRUNCATE", truncate), ("DROP", drop), ("DELETE", delete inner), ("INSERT", insert inner),
     ("UPDATE", update inner), ("ALTER", alter inner), ("SET", setting inner),
     ("USE", skipping name)]
  for (word, rest) in forms do
    if ← keyword? word then rest; return .other
  if (← oneOf? unreadWords).isSome then everything; return .other
  if ← keyword? "REPLACE" then throw (.illFormed "Unsupported statement REPLACE")
  expected "an SQL statement"

/-- All statements of the text: after each there is a semicolon or the end. -/
def statements : Parser (List Statement) := do
  let isSymbol := fun (lexeme : Lexeme) => lexeme.token == .symbol ";"
  modify fun (tokens : List Lexeme) => tokens.dropWhile isSymbol
  let first ← if (← peek).isNone then pure [] else pure [← statement]
  let others ← repeated (do
    let isSeparated ← atSymbol ";"
    modify fun (tokens : List Lexeme) => tokens.dropWhile isSymbol
    if (← peek).isNone then return none
    if isSeparated then return some (← statement)
    if ← atKeyword "END" 0 then everything; return none
    expected "end of statement")
  return first ++ others

def ofText (dialect : Dialect) (text : List Char) : Except SyntaxError (List Statement) := do
  let lexemes ← tokens dialect text
  let (parsed, _) ← statements { dialect } lexemes
  return parsed

end Statement

end SchemaScaffold.Sql
