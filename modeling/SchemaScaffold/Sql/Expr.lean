import SchemaScaffold.Sql.DataType
import SchemaScaffold.Sql.Lexer
import SchemaScaffold.Sql.Value

/-!
# Expressions

An expression is kept as its text in normal form, because nothing looks inside it: binary operators
stand between single spaces, words of the grammar are in upper case, names and calls stay as they
were written, brackets are kept.

How deep expressions and queries may be nested is limited. The parsers for what stands one level
deeper are handed in as `Inner`, so that every parser here is defined without recursion.
-/

namespace SchemaScaffold.Sql

structure Inner where
  /-- An expression whose operators bind more tightly than a given strength. -/
  subexpr : Nat → Parser String
  query : Parser String
  joined : Parser String

def Inner.expr (inner : Inner) : Parser String := inner.subexpr 0

inductive Binding where
  | or | and | not | other | is | like | comparison | pipe | caret | ampersand | xor | sum
  | product | timeZone | cast | period | bracket | collate
  deriving DecidableEq

def Binding.strength : Dialect → Binding → Nat
  | .mysql, .or => 5
  | .mysql, .and => 10
  | .mysql, .not => 15
  | .mysql, .other => 16
  | .mysql, .is => 17
  | .mysql, .like => 19
  | .mysql, .comparison => 20
  | .mysql, .pipe => 21
  | .mysql, .caret => 22
  | .mysql, .ampersand => 23
  | .mysql, .xor => 24
  | .mysql, .sum => 30
  | .mysql, .product => 40
  | .mysql, .timeZone => 41
  | .mysql, .cast => 50
  | .mysql, .bracket => 50
  | .mysql, .collate => 50
  | .mysql, .period => 100
  | .postgresql, .or => 10
  | .postgresql, .and => 20
  | .postgresql, .not => 30
  | .postgresql, .is => 40
  | .postgresql, .comparison => 50
  | .postgresql, .like => 60
  | .postgresql, .other => 70
  | .postgresql, .pipe => 70
  | .postgresql, .ampersand => 70
  | .postgresql, .xor => 75
  | .postgresql, .sum => 80
  | .postgresql, .product => 90
  | .postgresql, .caret => 100
  | .postgresql, .timeZone => 110
  | .postgresql, .collate => 120
  | .postgresql, .bracket => 130
  | .postgresql, .cast => 140
  | .postgresql, .period => 200

namespace Expr

open Sql.Parser

def strengthOf (b : Binding) : Parser Nat := do return b.strength (← dialect)

def symbolBinding (dialect : Dialect) (s : String) : Option Binding :=
  if ["=", "==", "<", "<=", "<>", "!=", ">", ">=", "<=>", ":=", "~", "~*", "!~", "!~*", "~~", "~~*",
      "!~~", "!~~*"].contains s then some .comparison
  else if ["+", "-"].contains s then some .sum
  else if ["*", "/", "%"].contains s then some .product
  else if s == "||" then some (if dialect == .mysql then .product else .other)
  else if s == "|" then some .pipe
  else if s == "&" then some .ampersand
  else if s == "^" then some .caret
  else if s == "<<" || s == ">>" then some (if dialect == .mysql then .caret else .other)
  else if s == "&&" then some (if dialect == .mysql then .cast else .other)
  else if ["->", "->>", "<@"].contains s then some .other
  else if dialect == .postgresql && !s.isEmpty && s.toList.all Lexer.isOperatorPart && s != "!" then
    some .other
  else none

def operatorText (dialect : Dialect) (s : String) : String :=
  if s == "==" then "="
  else if s == "!=" then "<>"
  else if s == "&&" && dialect == .mysql then "AND"
  else s

def wordBinding (inColumn : Bool) (word second third : String) : Option Binding :=
  match word with
  | "OR" => some .or
  | "AND" => some .and
  | "XOR" => some .xor
  | "AT" => if second == "TIME" && third == "ZONE" then some .timeZone else none
  | "NOT" =>
    if ["IN", "BETWEEN"].contains second then some .comparison
    else if ["LIKE", "ILIKE", "RLIKE", "REGEXP", "SIMILAR"].contains second then some .like
    else if second == "NULL" && !inColumn then some .is
    else none
  | "IS" => some .is
  | "IN" | "BETWEEN" | "OVERLAPS" | "OPERATOR" => some .comparison
  | "LIKE" | "ILIKE" | "RLIKE" | "REGEXP" | "SIMILAR" | "MEMBER" => some .like
  | "DIV" => some .product
  | _ => none

def nextStrength : Parser Nat := do
  let env ← read
  let tokens : List Lexeme ← get
  let keywordAt := fun (n : Nat) => (tokens[n]?.bind (·.token.keyword?)).getD ""
  let first : Option Token := tokens.head?.map (·.token)
  let binding : Option Binding := match first with
    | some (.word _ none word) =>
      if word == "COLLATE" && env.dialect == .postgresql && !env.inColumn then some .collate
      else if word == "NOTNULL" && env.dialect == .postgresql then some .is
      else wordBinding env.inColumn word (keywordAt 1) (keywordAt 2)
    | some (.symbol "::") => some .cast
    | some (.symbol "!") => if env.dialect == .postgresql then some .other else some .cast
    | some (.symbol s) => symbolBinding env.dialect s
    | _ => none
  return (binding.map (·.strength env.dialect)).getD 0

def orderOptions : Parser String := do
  let direction ← oneOf? ["ASC", "DESC"]
  let nulls ← do
    if ← keywords? ["NULLS", "FIRST"] then pure " NULLS FIRST"
    else if ← keywords? ["NULLS", "LAST"] then pure " NULLS LAST"
    else pure ""
  return (direction.map (" " ++ ·)).getD "" ++ nulls

def orderItem (inner : Inner) : Parser String := do
  return (← inner.expr) ++ (← orderOptions)

def orderBy (inner : Inner) : Parser String := do
  return "ORDER BY " ++ commaList (← commaSeparated (orderItem inner))

def atQuery : Parser Bool := atOneOf ["SELECT", "WITH"]

def timeUnits : List String :=
  ["YEAR", "YEARS", "MONTH", "MONTHS", "WEEK", "WEEKS", "DAY", "DAYOFWEEK", "DAYOFYEAR", "DAYS",
   "DATE", "DATETIME", "HOUR", "HOURS", "MINUTE", "MINUTES", "SECOND", "SECONDS", "CENTURY",
   "DECADE", "DOW", "DOY", "EPOCH", "ISODOW", "ISOYEAR", "ISOWEEK", "JULIAN", "MICROSECOND",
   "MICROSECONDS", "MILLENIUM", "MILLENNIUM", "MILLISECOND", "MILLISECONDS", "NANOSECOND",
   "NANOSECONDS", "QUARTER", "TIMEZONE", "TIMEZONE_HOUR", "TIMEZONE_MINUTE", "TIME"]

def timeField : Parser String := do
  match ← next "date/time field" with
  | .word text none k => return if timeUnits.contains k then k else text
  | .word text (some q) _ => return Literal.write q text
  | .singleQuoted text => return Literal.write '\'' text
  | _ => expected "date/time field"

def argument (inner : Inner) : Parser String := do
  if ← symbol? "*" then return "*"
  let named ← attempt (do
    let i ← identifier
    for arrow in ["=>", ":="] do
      if ← symbol? arrow then return i.render ++ " " ++ arrow ++ " "
    expected "=>")
  return named.getD "" ++ (← inner.expr)

def arguments (inner : Inner) : Parser String := do
  symbol "("
  if ← symbol? ")" then return "()"
  let distinct := ((← oneOf? ["DISTINCT", "ALL"]).map (· ++ " ")).getD ""
  let args ← commaSeparated (argument inner)
  let order ← do
    if ← keywords? ["ORDER", "BY"] then pure (" " ++ (← orderBy inner)) else pure ""
  let separator ← do
    if (← dialect) == .mysql && (← keyword? "SEPARATOR") then
      pure (" SEPARATOR " ++ (← literalValue))
    else pure ""
  symbol ")"
  return "(" ++ distinct ++ commaList args ++ order ++ separator ++ ")"

def frameBound (inner : Inner) : Parser String := do
  if ← keywords? ["CURRENT", "ROW"] then return "CURRENT ROW"
  let size ← do
    if ← keyword? "UNBOUNDED" then pure "UNBOUNDED" else inner.expr
  match ← oneOf? ["PRECEDING", "FOLLOWING"] with
  | some side => return size ++ " " ++ side
  | none => expected "PRECEDING or FOLLOWING"

def window (inner : Inner) : Parser String := do
  symbol "("
  let parts ← do
    if ← keywords? ["PARTITION", "BY"] then
      pure ["PARTITION BY " ++ commaList (← commaSeparated inner.expr)]
    else pure []
  let order ← do if ← keywords? ["ORDER", "BY"] then pure [← orderBy inner] else pure []
  let frame ← do
    match ← oneOf? ["ROWS", "RANGE", "GROUPS"] with
    | some unit =>
      if ← keyword? "BETWEEN" then
        let low ← frameBound inner
        keyword "AND"
        pure [unit ++ " BETWEEN " ++ low ++ " AND " ++ (← frameBound inner)]
      else pure [unit ++ " " ++ (← frameBound inner)]
    | none => pure []
  symbol ")"
  return "(" ++ " ".intercalate (parts ++ order ++ frame) ++ ")"

def callSuffix (inner : Inner) : Parser String := do
  let filter ← do
    if ← keyword? "FILTER" then
      symbol "("
      keyword "WHERE"
      let condition ← inner.expr
      symbol ")"
      pure (" FILTER (WHERE " ++ condition ++ ")")
    else pure ""
  let windowed ← do
    if ← keyword? "OVER" then
      if ← atSymbol "(" then pure (" OVER " ++ (← window inner))
      else pure (" OVER " ++ (← identifier).render)
    else pure ""
  return filter ++ windowed

def call (inner : Inner) (functionName : String) : Parser String := do
  let args ← arguments inner
  return functionName ++ args ++ (← callSuffix inner)

def caseExpr (inner : Inner) : Parser String := do
  let operand ← do
    if ← atKeyword "WHEN" 0 then pure "" else pure (" " ++ (← inner.expr))
  let branch : Parser String := do
    let condition ← inner.expr
    keyword "THEN"
    return " WHEN " ++ condition ++ " THEN " ++ (← inner.expr)
  keyword "WHEN"
  let first ← branch
  let others ← repeated (do if ← keyword? "WHEN" then return some (← branch) else return none)
  let otherwise ← do if ← keyword? "ELSE" then pure (" ELSE " ++ (← inner.expr)) else pure ""
  keyword "END"
  return "CASE" ++ operand ++ String.join (first :: others) ++ otherwise ++ " END"

/-- An interval whose first word has been taken. MySQL reads a whole expression and requires a unit
of time; PostgreSQL reads one operand and the unit is optional. -/
def interval (inner : Inner) (operand : Parser String) : Parser String := do
  let isMysql := (← dialect) == .mysql
  let value ← if isMysql then inner.expr else operand
  let unit ← do
    if ← atOneOf timeUnits then pure (some (← timeField))
    else if isMysql then
      throw (.illFormed "INTERVAL requires a unit after the literal value")
    else pure none
  let spaced := fun (text : String) => if text.isEmpty then "" else " " ++ text
  let leading ← DataType.precisionAndScale
  let last ← do
    if ← keyword? "TO" then
      let field ← timeField
      pure (" TO " ++ field ++ spaced (← DataType.precision))
    else pure ""
  return "INTERVAL " ++ value ++ spaced (unit.getD "") ++ spaced leading ++ last

def bracketedQuery (inner : Inner) : Parser String := do
  let text ← inner.query
  symbol ")"
  return "(" ++ text ++ ")"

def existsExpr (inner : Inner) : Parser String := do
  symbol "("
  return "EXISTS " ++ (← bracketedQuery inner)

def castExpr (inner : Inner) (word : String) : Parser String := do
  symbol "("
  let value ← inner.expr
  keyword "AS"
  let type ← dataType
  symbol ")"
  return word ++ "(" ++ value ++ " AS " ++ type ++ ")"

def convertExpr (inner : Inner) : Parser String := do
  symbol "("
  let value ← inner.expr
  if ← keyword? "USING" then
    let charset ← name
    symbol ")"
    return "CONVERT(" ++ value ++ " USING " ++ charset.render ++ ")"
  symbol ","
  let type ← dataType
  let charset ← do
    if ← keywords? ["CHARACTER", "SET"] then pure (" CHARACTER SET " ++ (← name).render)
    else pure ""
  symbol ")"
  return "CONVERT(" ++ value ++ ", " ++ type ++ charset ++ ")"

def extractExpr (inner : Inner) : Parser String := do
  symbol "("
  let part ← timeField
  keyword "FROM"
  let value ← inner.expr
  symbol ")"
  return "EXTRACT(" ++ part ++ " FROM " ++ value ++ ")"

def roundingExpr (inner : Inner) (word : String) : Parser String := do
  symbol "("
  let value ← inner.expr
  let target ← do
    if ← keyword? "TO" then pure (" TO " ++ (← timeField))
    else if ← symbol? "," then pure (", " ++ (← literalValue))
    else pure ""
  symbol ")"
  return word ++ "(" ++ value ++ target ++ ")"

def substringExpr (inner : Inner) (word : String) : Parser String := do
  symbol "("
  let value ← inner.expr
  let from_ ← do
    if ← symbol? "," then pure (", " ++ (← inner.expr))
    else if ← keyword? "FROM" then pure (" FROM " ++ (← inner.expr))
    else pure ""
  let for_ ← do
    if ← symbol? "," then pure (", " ++ (← inner.expr))
    else if ← keyword? "FOR" then pure (" FOR " ++ (← inner.expr))
    else pure ""
  symbol ")"
  return word ++ "(" ++ value ++ from_ ++ for_ ++ ")"

def trimExpr (inner : Inner) : Parser String := do
  symbol "("
  let side := ((← oneOf? ["BOTH", "LEADING", "TRAILING"]).map (· ++ " ")).getD ""
  let value ← inner.expr
  let rest ← do
    if ← keyword? "FROM" then pure (" FROM " ++ (← inner.expr))
    else if ← symbol? "," then pure (", " ++ commaList (← commaSeparated inner.expr))
    else pure ""
  symbol ")"
  return "TRIM(" ++ side ++ value ++ rest ++ ")"

def positionExpr (inner : Inner) : Parser String := do
  symbol "("
  let value ← inner.subexpr (← strengthOf .comparison)
  keyword "IN"
  let text ← inner.expr
  symbol ")"
  return "POSITION(" ++ value ++ " IN " ++ text ++ ")"

def arrayElements (inner : Inner) : Parser String := do
  let elements ← commaSeparatedBefore "]" inner.expr
  symbol "]"
  return "[" ++ commaList elements ++ "]"

def brackets (inner : Inner) : Parser String := do
  if ← atQuery then bracketedQuery inner
  else
    let texts ← inExpression (commaSeparated inner.expr)
    symbol ")"
    return "(" ++ commaList texts ++ ")"

def reserved (inner : Inner) (operand : Parser String) (text k : String) :
    Parser (Option String) := do
  let isPostgres := (← dialect) == .postgresql
  match k with
  | "CURRENT_CATALOG" | "CURRENT_USER" | "SESSION_USER" | "USER" =>
    return if isPostgres then some text else none
  | "CURRENT_TIMESTAMP" | "CURRENT_TIME" | "CURRENT_DATE" | "LOCALTIME" | "LOCALTIMESTAMP" =>
    if ← atSymbol "(" then return some (text ++ (← arguments inner)) else return some text
  | "CASE" => return some (← caseExpr inner)
  | "CONVERT" => return some (← convertExpr inner)
  | "CAST" | "TRY_CAST" | "SAFE_CAST" => return some (← castExpr inner k)
  | "EXISTS" => return some (← existsExpr inner)
  | "EXTRACT" => return some (← extractExpr inner)
  | "CEIL" | "FLOOR" => return some (← roundingExpr inner k)
  | "POSITION" =>
    if ← atSymbol "(" then return some (← positionExpr inner) else return none
  | "SUBSTR" | "SUBSTRING" => return some (← substringExpr inner k)
  | "TRIM" => return some (← trimExpr inner)
  | "INTERVAL" => return some (← interval inner operand)
  | "ARRAY" =>
    if ← symbol? "[" then return some ("ARRAY" ++ (← arrayElements inner))
    else if ← symbol? "(" then return some ("ARRAY" ++ (← bracketedQuery inner))
    else return none
  | "NOT" =>
    if ← keyword? "EXISTS" then return some ("NOT " ++ (← existsExpr inner))
    else return some ("NOT " ++ (← inner.subexpr (← strengthOf .not)))
  | "CIRCLE" | "BOX" | "PATH" | "LINE" | "LSEG" | "POINT" | "POLYGON" =>
    if isPostgres then return some (k ++ " " ++ (← literalValue)) else return none
  | _ => return none

/-- An expression that begins with a word that is a name: a call, a literal with the name of its
character set before it, or the name alone. -/
def named (inner : Inner) (word : Identifier) : Parser String := do
  match ← peek with
  | some (.symbol "(") => call inner word.render
  | some (.singleQuoted _) | some (.doubleQuoted _) | some (.hexLiteral _) =>
    if word.text.startsWith "_" then return word.render ++ " " ++ (← literalValue)
    else return word.render
  | _ => return word.render

def notIdentifiers : Dialect → List String
  | .mysql => ["EXISTS", "INTERVAL", "STRUCT", "TRIM"]
  | .postgresql => ["EXISTS", "STRUCT", "TRIM"]

def typedLiteral (inner : Inner) (operand : Parser String) : Parser String := do
  match ← peek with
  | some (.word _ none "INTERVAL") =>
    let _ ← dataType
    interval inner operand
  | some (.word _ none k) =>
    let tokens ← get
    skip
    match ← DataType.known k with
    | none => expected "a known type"
    | some _ =>
      set tokens
      let type ← dataType
      if k == "BINARY" && (← dialect) == .mysql then
        return "CAST(" ++ (← inner.expr) ++ " AS BINARY)"
      else return type ++ " " ++ (← literalValue)
  | _ => expected "a data type name"

def plainOperand (inner : Inner) (operand : Parser String) : Parser String := do
  match ← attempt (typedLiteral inner operand) with
  | some text => return text
  | none =>
  match ← peek with
  | some (.word _ none "TRUE") | some (.word _ none "FALSE") | some (.word _ none "NULL") =>
    literalValue
  | some (.word text quote k) =>
    skip
    let tokens ← get
    let env ← read
    match (reserved inner operand text k) env tokens with
    | .ok (some result, rest) => set rest; return result
    | .ok (none, _) => named inner ⟨text, quote⟩
    | .error e =>
      if (notIdentifiers env.dialect).contains k then throw e
      else match ← attempt (named inner ⟨text, quote⟩) with
        | some result => return result
        | none => throw e
  | some (.symbol "[") => skip; arrayElements inner
  | some (.symbol "-") => skip; return "-" ++ (← inner.subexpr (← strengthOf .product))
  | some (.symbol "+") => skip; return "+" ++ (← inner.subexpr (← strengthOf .product))
  | some (.symbol "!") =>
    if (← dialect) == .mysql then skip; return "!" ++ (← inner.subexpr (← strengthOf .not))
    else expected "an expression"
  | some (.symbol "~") => skip; return "~" ++ (← inner.subexpr (← strengthOf .sum))
  | some (.symbol "(") => skip; brackets inner
  | some (.symbol "@") =>
    if (← dialect) == .postgresql then skip; return "@" ++ (← inner.subexpr (← strengthOf .sum))
    else literalValue
  | some (.symbol ":") => literalValue
  | some (.symbol s) =>
    if ["!!", "|/", "||/"].contains s && (← dialect) == .postgresql then
      skip; return s ++ (← inner.subexpr (← strengthOf .sum))
    else expected "an expression"
  | some (.stray _) | none => expected "an expression"
  | some _ => literalValue

/-- A collation behind an operand. Among the options of a column it belongs to the column. -/
def collation : Parser String := do
  if (← read).inColumn then return ""
  if ← keyword? "COLLATE" then return " COLLATE " ++ (← name).render else return ""

/-- An operand. The operand of an interval inside an interval is read at the next level. -/
def operand (inner : Inner) : Parser String := do
  return (← plainOperand inner (inner.subexpr 255)) ++ (← collation)

def accesses (inner : Inner) : Parser String := do
  let parts ← repeated (do
    if ← atSymbol "." then
      if (← peekAt 1) == some (.symbol "*") then return none
      skip
      match ← peek with
      | some (.singleQuoted text) => skip; return some ("." ++ Literal.write '\'' text)
      | _ => return some ("." ++ (← inner.subexpr (← strengthOf .period)))
    else if ← symbol? "[" then
      let bound := do
        if (← atSymbol ":") || (← atSymbol "]") then pure "" else inner.expr
      let first ← bound
      let second ← do if ← symbol? ":" then pure (":" ++ (← bound)) else pure ""
      symbol "]"
      return some ("[" ++ first ++ second ++ "]")
    else return none)
  return String.join parts

def inValues (inner : Inner) : Parser String := do
  symbol "("
  if ← atQuery then bracketedQuery inner
  else
    let values ← commaSeparatedBefore ")" inner.expr
    symbol ")"
    return "(" ++ commaList values ++ ")"

def escapeClause : Parser String := do
  if ← keyword? "ESCAPE" then return " ESCAPE " ++ (← literalValue) else return ""

def test (inner : Inner) (left : String) : Parser String := do
  let negated ← keyword? "NOT"
  let start := left ++ (if negated then " NOT " else " ")
  let env ← read
  if negated && !env.inColumn && (← keyword? "NULL") then return left ++ " IS NOT NULL"
  let pattern : Parser String := do inner.subexpr (← strengthOf .like)
  match ← oneOf? ["IN", "BETWEEN", "LIKE", "ILIKE", "RLIKE", "REGEXP", "SIMILAR"] with
  | some "IN" => return start ++ "IN " ++ (← inValues inner)
  | some "BETWEEN" =>
    let low ← inner.subexpr (← strengthOf .comparison)
    keyword "AND"
    return start ++ "BETWEEN " ++ low ++ " AND " ++ (← inner.subexpr (← strengthOf .comparison))
  | some "SIMILAR" =>
    keyword "TO"
    return start ++ "SIMILAR TO " ++ (← pattern) ++ (← escapeClause)
  | some word =>
    let any ← keyword? "ANY"
    return start ++ word ++ (if any then " ANY " else " ") ++ (← pattern) ++ (← escapeClause)
  | none => expected "IN or BETWEEN after NOT"

def isTest (inner : Inner) (left : String) : Parser String := do
  let negation := if ← keyword? "NOT" then "NOT " else ""
  match ← oneOf? ["NULL", "TRUE", "FALSE", "UNKNOWN"] with
  | some word => return left ++ " IS " ++ negation ++ word
  | none =>
    if ← keywords? ["DISTINCT", "FROM"] then
      return left ++ " IS " ++ negation ++ "DISTINCT FROM " ++ (← inner.expr)
    else expected "[NOT] NULL | TRUE | FALSE | DISTINCT | [form] NORMALIZED FROM after IS"

def rightSide (inner : Inner) (strength : Nat) : Parser String := do
  match ← oneOf? ["ANY", "ALL", "SOME"] with
  | some word =>
    symbol "("
    if ← atQuery then return word ++ (← bracketedQuery inner)
    let text ← inner.subexpr strength
    symbol ")"
    return word ++ "(" ++ text ++ ")"
  | none => inner.subexpr strength

def extend (inner : Inner) (left : String) (strength : Nat) : Parser String := do
  match ← peek with
  | some (.symbol "::") => skip; return left ++ "::" ++ (← dataType)
  | some (.symbol "!") =>
    if (← dialect) == .postgresql then skip; return left ++ "!"
    else throw (.illFormed "No infix parser for token ExclamationMark")
  | some (.symbol s) =>
    skip
    return left ++ " " ++ operatorText (← dialect) s ++ " " ++ (← rightSide inner strength)
  | some (.word _ none k) =>
    if ["OR", "AND", "XOR", "DIV", "OVERLAPS"].contains k then
      skip
      return left ++ " " ++ k ++ " " ++ (← rightSide inner strength)
    else match k with
      | "AT" => skip; skip; skip; return left ++ " AT TIME ZONE " ++ (← inner.subexpr strength)
      | "IS" => skip; isTest inner left
      | "NOTNULL" => skip; return left ++ " IS NOT NULL"
      | "COLLATE" => skip; return left ++ " COLLATE " ++ (← name).render
      | "MEMBER" =>
        skip
        keyword "OF"
        return left ++ " MEMBER OF(" ++ (← bracketed inner.expr) ++ ")"
      | _ => test inner left
  | _ => expected "an operator"

/-- Operators behind `left` that bind more tightly than `least`. Each takes a token, so the number
of tokens bounds the rounds. -/
def extendAll (inner : Inner) (least : Nat) (rounds : Nat) (left : String) : Parser String :=
  match rounds with
  | 0 => return left
  | rounds + 1 => do
    let strength ← nextStrength
    if strength ≤ least then return left
    else extendAll inner least rounds (← extend inner left strength)

def subexpr (inner : Inner) (least : Nat) : Parser String := do
  let first ← operand inner
  let rest ← accesses inner
  extendAll inner least ((← get).length + 1) (first ++ rest)

end Expr

end SchemaScaffold.Sql
