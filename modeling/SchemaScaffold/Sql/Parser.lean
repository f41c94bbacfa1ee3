import SchemaScaffold.Dialect
import SchemaScaffold.Sql.Token

/-!
# Parsers over tokens

A parser takes tokens from the front of a statement and yields a value, or says what it expected
instead. Nothing is consumed by a choice that is not taken. Lists and loops end because each round
takes at least one token.
-/

namespace SchemaScaffold.Sql

structure Surroundings where
  dialect : Dialect
  /-- Inside the options of a column, where `NOT NULL` and `COLLATE` belong to the column and not
  to the expression before them. -/
  inColumn : Bool := false

abbrev Parser := ReaderT Surroundings (StateT (List Lexeme) (Except SyntaxError))

namespace Parser

variable {α β : Type}

def peek : Parser (Option Token) := do return (← get).head?.map (·.token)

def peekAt (n : Nat) : Parser (Option Token) := do return (← get)[n]?.map (·.token)

def expected (what : String) : Parser α := do throw (.unexpected what (← get).head?)

def next (what : String) : Parser Token := do
  match ← get with
  | lexeme :: rest => set rest; return lexeme.token
  | [] => expected what

def skip : Parser Unit := modify (List.drop 1)

/-- Tries a parser. When it fails nothing is taken, and only excessive nesting is passed on. -/
def attempt (p : Parser α) : Parser (Option α) := fun env tokens =>
  match p env tokens with
  | .ok (a, rest) => .ok (some a, rest)
  | .error .tooDeep => .error .tooDeep
  | .error _ => .ok (none, tokens)

def inExpression (p : Parser α) : Parser α := fun env => p { env with inColumn := false }

def inColumnOption (p : Parser α) : Parser α := fun env => p { env with inColumn := true }

def dialect : Parser Dialect := do return (← read).dialect

def atSymbol (s : String) : Parser Bool := do return (← peek) == some (.symbol s)

def symbol? (s : String) : Parser Bool := do
  if ← atSymbol s then skip; return true else return false

def symbol (s : String) : Parser Unit := do
  unless ← symbol? s do expected s

def atKeyword (k : String) (n : Nat) : Parser Bool := do
  return (← peekAt n).any (·.isKeyword k)

def keyword? (k : String) : Parser Bool := do
  if ← atKeyword k 0 then skip; return true else return false

def keyword (k : String) : Parser Unit := do
  unless ← keyword? k do expected k

def atKeywords (ks : List String) : Parser Bool := do
  let tokens := (← get).take ks.length
  return tokens.length == ks.length
    && (tokens.zip ks).all fun (lexeme, k) => lexeme.token.isKeyword k

def keywords? (ks : List String) : Parser Bool := do
  if ← atKeywords ks then modify (List.drop ks.length); return true else return false

def keywords (ks : List String) : Parser Unit := ks.forM keyword

def oneOf? (ks : List String) : Parser (Option String) := do
  match (← peek).bind Token.keyword? with
  | some k => if ks.contains k then skip; return some k else return none
  | none => return none

def atOneOf (ks : List String) : Parser Bool := do
  return ((← peek).bind Token.keyword?).any ks.contains

/-- Repeats a step until it yields no value. Each round but the last takes a token, so the number of
tokens bounds the rounds. -/
def repeated (step : Parser (Option α)) : Parser (List α) := do
  go ((← get).length + 1) []
where
  go (rounds : Nat) (done : List α) : Parser (List α) :=
    match rounds with
    | 0 => return done.reverse
    | rounds + 1 => do
      match ← step with
      | some a => go rounds (a :: done)
      | none => return done.reverse

def commaSeparated (p : Parser α) : Parser (List α) := do
  let first ← p
  let others ← repeated (do if ← symbol? "," then return some (← p) else return none)
  return first :: others

def commaSeparatedBefore (close : String) (p : Parser α) : Parser (List α) := do
  if ← atSymbol close then return [] else commaSeparated p

def bracketed (p : Parser α) : Parser α := do
  symbol "("
  let a ← p
  symbol ")"
  return a

def bracketed? (p : Parser α) : Parser (Option α) := do
  if ← atSymbol "(" then return some (← bracketed p) else return none

def after? (ks : List String) (p : Parser α) : Parser (Option α) := do
  if ← keywords? ks then return some (← p) else return none

end Parser

end SchemaScaffold.Sql
