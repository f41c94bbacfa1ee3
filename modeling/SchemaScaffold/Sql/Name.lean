import SchemaScaffold.Sql.Literal
import SchemaScaffold.Sql.Parser
import SchemaScaffold.Text.Digits

namespace SchemaScaffold.Sql

structure Identifier where
  text : String
  quote : Option Char := none
  deriving DecidableEq, Repr

def Identifier.render (i : Identifier) : String :=
  match i.quote with
  | some q => Literal.write q i.text
  | none => i.text

abbrev Name := List Identifier

def Name.render (name : Name) : String := ".".intercalate (name.map Identifier.render)

def commaList (texts : List String) : String := ", ".intercalate texts

namespace Parser

def identifierOf : Token → Option Identifier
  | .word text quote _ => some ⟨text, quote⟩
  | .singleQuoted text => some ⟨text, some '\''⟩
  | .doubleQuoted text => some ⟨text, some '"'⟩
  | _ => none

def identifier : Parser Identifier := do
  match (← peek).bind identifierOf with
  | some i => skip; return i
  | none => expected "identifier"

def identifier? : Parser (Option Identifier) := attempt identifier

def name : Parser Name := do
  let first ← identifier
  let others ← repeated (do if ← symbol? "." then return some (← identifier) else return none)
  return first :: others

def bracketedIdentifiers : Parser (List Identifier) := bracketed (commaSeparated identifier)

def atWord : Parser Bool := do
  match ← peek with
  | some (.word ..) => return true
  | _ => return false

def natural : Parser Nat := do
  match ← peek with
  | some (.number digits _) =>
    match (Text.digits? digits.toList).filter (· < Nat.pow 2 64) with
    | some n => skip; return n
    | none => expected "literal int"
  | _ => expected "literal int"

def quotedText : Parser String := do
  match ← peek with
  | some (.word text _ _) | some (.singleQuoted text) | some (.doubleQuoted text) =>
    skip
    return text
  | some (.escapedLiteral text) | some (.unicodeLiteral text) =>
    if (← dialect) == .postgresql then skip; return text else expected "literal string"
  | _ => expected "literal string"

end Parser

end SchemaScaffold.Sql
