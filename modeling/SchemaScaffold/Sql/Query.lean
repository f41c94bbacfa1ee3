import SchemaScaffold.Sql.Expr

namespace SchemaScaffold.Sql

namespace Query

open Sql.Parser

def notColumnAliases : List String :=
  ["WITH", "EXPLAIN", "ANALYZE", "SELECT", "WHERE", "GROUP", "SORT", "HAVING", "ORDER", "TOP",
   "LATERAL", "VIEW", "LIMIT", "OFFSET", "FETCH", "UNION", "EXCEPT", "INTERSECT", "MINUS",
   "CLUSTER", "DISTRIBUTE", "RETURNING", "FROM", "INTO", "END"]

def notTableAliases : List String :=
  notColumnAliases ++
  ["PIVOT", "UNPIVOT", "ON", "JOIN", "INNER", "CROSS", "FULL", "LEFT", "RIGHT", "NATURAL",
   "USING", "GLOBAL", "ANTI", "SEMI", "ASOF", "MATCH_CONDITION", "OUTER", "SET", "QUALIFY",
   "WINDOW", "FOR", "PARTITION", "PREWHERE", "SETTINGS", "FORMAT", "START", "CONNECT",
   "MATCH_RECOGNIZE", "SAMPLE", "TABLESAMPLE", "OPEN", "VALUES", "DEFAULT"]

def notMysqlTableAliases : List String := ["USE", "IGNORE", "FORCE", "STRAIGHT_JOIN"]

/-- An optional alias, which is none of the given words unless `AS` announces it. -/
def alias? (refused : List String) : Parser String := do
  if ← keyword? "AS" then return " AS " ++ (← identifier).render
  match ← peek with
  | some (.word text quote k) =>
    if refused.contains k then return "" else skip; return " AS " ++ Identifier.render ⟨text, quote⟩
  | some (.singleQuoted text) => skip; return " AS " ++ Literal.write '\'' text
  | some (.doubleQuoted text) => skip; return " AS " ++ Literal.write '"' text
  | _ => return ""

def tableAlias : Parser String := do
  let refused := notTableAliases ++
    (if (← dialect) == .mysql then notMysqlTableAliases else [])
  let name ← alias? refused
  if name.isEmpty then return ""
  if ← atSymbol "(" then
    match ← attempt bracketedIdentifiers with
    | some names => return name ++ " (" ++ commaList (names.map Identifier.render) ++ ")"
    | none => return name
  else return name

def selectItem (inner : Inner) : Parser String := do
  if ← symbol? "*" then return "*"
  let qualified ← attempt (do
    let first ← identifier
    let others ← repeated (do
      if (← atSymbol ".") && (← peekAt 1) != some (.symbol "*") then
        skip
        return some (← identifier)
      else return none)
    symbol "."
    symbol "*"
    return Name.render (first :: others) ++ ".*")
  match qualified with
  | some text => return text
  | none => return (← inner.expr) ++ (← alias? notColumnAliases)

def conditionClause (inner : Inner) (word : String) : Parser String := do
  if ← keyword? word then return " " ++ word ++ " " ++ (← inner.expr) else return ""

def tableFactor (inner : Inner) : Parser String := do
  let lateral := if ← keyword? "LATERAL" then "LATERAL " else ""
  if ← symbol? "(" then
    let text ← do
      if ← atOneOf ["SELECT", "WITH", "VALUES"] then inner.query else
        match ← attempt inner.joined with
        | some text => pure text
        | none => inner.query
    symbol ")"
    return lateral ++ "(" ++ text ++ ")" ++ (← tableAlias)
  if ← keywords? ["UNNEST"] then
    return lateral ++ "UNNEST" ++ (← Expr.arguments inner) ++ (← tableAlias)
  let table ← name
  let args ← do if ← atSymbol "(" then Expr.arguments inner else pure ""
  return lateral ++ table.render ++ args ++ (← tableAlias)

def joinCondition (inner : Inner) : Parser String := do
  if ← keyword? "ON" then return " ON " ++ (← inner.expr)
  else if ← keyword? "USING" then
    return " USING(" ++ commaList ((← bracketedIdentifiers).map Identifier.render) ++ ")"
  else return ""

def joinWords : Parser (Option String) := do
  let forms := [["JOIN"], ["INNER", "JOIN"], ["CROSS", "JOIN"], ["LEFT", "JOIN"],
    ["LEFT", "OUTER", "JOIN"], ["RIGHT", "JOIN"], ["RIGHT", "OUTER", "JOIN"], ["FULL", "JOIN"],
    ["FULL", "OUTER", "JOIN"], ["NATURAL", "JOIN"], ["NATURAL", "INNER", "JOIN"],
    ["NATURAL", "LEFT", "JOIN"], ["NATURAL", "RIGHT", "JOIN"], ["NATURAL", "FULL", "JOIN"],
    ["STRAIGHT_JOIN"]]
  for form in forms do
    if ← keywords? form then return some (" " ++ " ".intercalate form ++ " ")
  return none

def joined (inner : Inner) : Parser String := do
  let first ← tableFactor inner
  let others ← repeated (do
    match ← joinWords with
    | some words =>
      let table ← tableFactor inner
      return some (words ++ table ++ (← joinCondition inner))
    | none => return none)
  return first ++ String.join others

def tables (inner : Inner) : Parser String := do
  return commaList (← commaSeparated (joined inner))

def selection (inner : Inner) : Parser String := do
  let distinct ← do
    if ← keyword? "DISTINCT" then
      if ← keyword? "ON" then
        pure (" DISTINCT ON (" ++ commaList (← bracketed (commaSeparated inner.expr)) ++ ")")
      else pure " DISTINCT"
    else if ← keyword? "ALL" then pure " ALL"
    else pure ""
  let isEmpty := (← dialect) == .postgresql && ((← atKeyword "FROM" 0) || (← peek).isNone)
  let items ← if isEmpty then pure [] else commaSeparated (selectItem inner)
  let into ← do if ← keyword? "INTO" then pure (" INTO " ++ (← name).render) else pure ""
  let from_ ← do if ← keyword? "FROM" then pure (" FROM " ++ (← tables inner)) else pure ""
  let where_ ← conditionClause inner "WHERE"
  let group ← do
    if ← keywords? ["GROUP", "BY"] then
      pure (" GROUP BY " ++ commaList (← commaSeparated inner.expr))
    else pure ""
  let having ← conditionClause inner "HAVING"
  return "SELECT" ++ distinct ++ (if items.isEmpty then "" else " " ++ commaList items) ++ into
    ++ from_ ++ where_ ++ group ++ having

def values (inner : Inner) : Parser String := do
  let row : Parser String := do
    let _ ← keyword? "ROW"
    return "(" ++ commaList (← bracketed (commaSeparatedBefore ")" inner.expr)) ++ ")"
  return "VALUES " ++ commaList (← commaSeparated row)

def part (inner : Inner) : Parser String := do
  if ← keyword? "SELECT" then selection inner
  else if (← keyword? "VALUES") || (← keyword? "VALUE") then values inner
  else if ← symbol? "(" then Expr.bracketedQuery inner
  else if ← keyword? "TABLE" then return "TABLE " ++ (← name).render
  else expected "SELECT, VALUES, or a subquery in the query body"

def body (inner : Inner) : Parser String := do
  let first ← part inner
  let others ← repeated (do
    match ← oneOf? ["UNION", "EXCEPT", "INTERSECT", "MINUS"] with
    | some word =>
      let quantifier := ((← oneOf? ["ALL", "DISTINCT"]).map (" " ++ ·)).getD ""
      return some (" " ++ word ++ quantifier ++ " " ++ (← part inner))
    | none => return none)
  return first ++ String.join others

def commonTable (inner : Inner) : Parser String := do
  let name ← identifier
  let columns ← do
    if ← atSymbol "(" then
      pure (" (" ++ commaList ((← bracketedIdentifiers).map Identifier.render) ++ ")")
    else pure ""
  keyword "AS"
  symbol "("
  return name.render ++ columns ++ " AS " ++ (← Expr.bracketedQuery inner)

def lockClause : Parser String := do
  let _ ← repeated (do
    if ← keyword? "FOR" then
      match ← oneOf? ["UPDATE", "SHARE"] with
      | some _ =>
        let _ ← after? ["OF"] name
        let _ ← oneOf? ["NOWAIT"]
        let _ ← keywords? ["SKIP", "LOCKED"]
        return some ()
      | none => expected "UPDATE or SHARE"
    else return none)
  return ""

def query (inner : Inner) : Parser String := do
  let with_ ← do
    if ← keyword? "WITH" then
      let recursive := if ← keyword? "RECURSIVE" then "RECURSIVE " else ""
      pure ("WITH " ++ recursive ++ commaList (← commaSeparated (commonTable inner)) ++ " ")
    else pure ""
  let text ← body inner
  let order ←
    if ← keywords? ["ORDER", "BY"] then pure (" " ++ (← Expr.orderBy inner)) else pure ""
  let limits ← repeated (do
    if ← keyword? "LIMIT" then
      let first ← inner.expr
      if ← symbol? "," then return some (" LIMIT " ++ first ++ ", " ++ (← inner.expr))
      else return some (" LIMIT " ++ first)
    else if ← keyword? "OFFSET" then
      let count ← inner.expr
      let _ ← oneOf? ["ROW", "ROWS"]
      return some (" OFFSET " ++ count)
    else if ← keyword? "FETCH" then
      let _ ← oneOf? ["FIRST", "NEXT"]
      let count ← do if ← atOneOf ["ROW", "ROWS"] then pure "" else inner.expr
      let _ ← oneOf? ["ROW", "ROWS"]
      keyword "ONLY"
      return some (" FETCH FIRST " ++ count ++ " ROWS ONLY")
    else return none)
  return with_ ++ text ++ order ++ String.join limits ++ (← lockClause)

end Query

/-- How deep a statement, its queries and its expressions may be nested. -/
def nestingLimit : Nat := 50

def Inner.ofDepth : Nat → Inner
  | 0 => ⟨fun _ => throw .tooDeep, throw .tooDeep, throw .tooDeep⟩
  | depth + 1 =>
    let inner := Inner.ofDepth depth
    ⟨Expr.subexpr inner, Query.query inner, Query.joined inner⟩

def Inner.top : Inner := Inner.ofDepth (nestingLimit - 1)

end SchemaScaffold.Sql
