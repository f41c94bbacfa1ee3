import SchemaScaffold.Text.CaseMap

namespace SchemaScaffold.Sql

inductive Token where
  /-- A word. `keyword` is the word in upper case, or empty when the word is quoted. -/
  | word (text : String) (quote : Option Char) (keyword : String)
  | number (digits : String) (isLong : Bool)
  | singleQuoted (text : String)
  | doubleQuoted (text : String)
  | escapedLiteral (text : String)
  | unicodeLiteral (text : String)
  | nationalLiteral (text : String)
  | hexLiteral (digits : String)
  | bitLiteral (text : String) (quote : Char)
  | dollarQuoted (text : String) (tag : String)
  | placeholder (text : String)
  | symbol (text : String)
  | stray (c : Char)
  deriving DecidableEq, Repr, Inhabited

namespace Token

def ofWord (text : String) (quote : Option Char) : Token :=
  .word text quote (if quote.isNone then Text.upper text else "")

def display : Token → String
  | .word text none _ => text
  | .word text (some q) _ => q.toString ++ text ++ q.toString
  | .number digits isLong => digits ++ (if isLong then "L" else "")
  | .singleQuoted text => "'" ++ text ++ "'"
  | .doubleQuoted text => "\"" ++ text ++ "\""
  | .escapedLiteral text => "E'" ++ text ++ "'"
  | .unicodeLiteral text => "U&'" ++ text ++ "'"
  | .nationalLiteral text => "N'" ++ text ++ "'"
  | .hexLiteral digits => "X'" ++ digits ++ "'"
  | .bitLiteral text q => "B" ++ q.toString ++ text ++ q.toString
  | .dollarQuoted text tag => "$" ++ tag ++ "$" ++ text ++ "$" ++ tag ++ "$"
  | .placeholder text => text
  | .symbol text => text
  | .stray c => c.toString

def keyword? : Token → Option String
  | .word _ none keyword => some keyword
  | _ => none

def isKeyword (token : Token) (keyword : String) : Bool := token.keyword? == some keyword

end Token

/-- A token and the text of the statement from its first character on, which tells its place. -/
structure Lexeme where
  token : Token
  source : List Char
  deriving Repr

structure Location where
  line : Nat
  column : Nat
  deriving DecidableEq, Repr

def Location.after (passed : List Char) : Location :=
  passed.foldl (fun at_ c =>
    if c == '\n' then ⟨at_.line + 1, 1⟩ else ⟨at_.line, at_.column + 1⟩) ⟨1, 1⟩

def Location.ofSource (text source : List Char) : Location :=
  .after (text.take (text.length - source.length))

inductive SyntaxError where
  | lexical (message : String) (source : List Char)
  | unexpected (expected : String) (found : Option Lexeme)
  /-- The grammar is met, but not a rule beside it. -/
  | illFormed (message : String)
  | tooDeep
  deriving Repr

/-- The message about an error in the statement `text`. -/
def SyntaxError.message (text : List Char) : SyntaxError → String
  | .lexical message source => message ++ place source
  | .unexpected expected (some lexeme) =>
    "Expected: " ++ expected ++ ", found: " ++ lexeme.token.display ++ place lexeme.source
  | .unexpected expected none => "Expected: " ++ expected ++ ", found: EOF"
  | .illFormed message => message
  | .tooDeep => "recursion limit exceeded"
where
  place (source : List Char) : String :=
    let at_ := Location.ofSource text source
    " at Line: " ++ toString at_.line ++ ", Column: " ++ toString at_.column

end SchemaScaffold.Sql
