import SchemaScaffold.Sql.Name

namespace SchemaScaffold.Sql

open Sql.Parser

/-- Quoted texts that follow one another make up one text in MySQL. -/
def concatenated (first : String) : Parser String := do
  if (← dialect) == .postgresql then return first
  let others ← repeated (do
    match ← peek with
    | some (.singleQuoted text) | some (.doubleQuoted text) => skip; return some text
    | _ => return none)
  return first ++ String.join others

def literalValue : Parser String := do
  match ← peek with
  | some (.word _ none "TRUE") => skip; return "true"
  | some (.word _ none "FALSE") => skip; return "false"
  | some (.word _ none "NULL") => skip; return "NULL"
  | some (.word text (some '"') _) => skip; return Literal.write '"' text
  | some (.number digits isLong) => skip; return digits ++ (if isLong then "L" else "")
  | some (.singleQuoted text) => skip; return Literal.write '\'' (← concatenated text)
  | some (.doubleQuoted text) => skip; return Literal.write '"' (← concatenated text)
  | some (.escapedLiteral text) => skip; return "E'" ++ Literal.showEscaped text ++ "'"
  | some (.nationalLiteral text) => skip; return "N'" ++ text ++ "'"
  | some t@(.unicodeLiteral _) | some t@(.hexLiteral _) | some t@(.bitLiteral ..)
  | some t@(.dollarQuoted ..) | some t@(.placeholder _) => skip; return t.display
  | some (.symbol ":") => skip; return ":" ++ (← placeholderName)
  | some (.symbol "@") => skip; return "@" ++ (← placeholderName)
  | _ => expected "a value"
where
  placeholderName : Parser String := do
    match ← next "placeholder" with
    | .word text _ _ => return text
    | .number digits false => return digits
    | _ => expected "placeholder"

end SchemaScaffold.Sql
