import SchemaScaffold.Dialect
import SchemaScaffold.Sql.Literal
import SchemaScaffold.Sql.Token
import SchemaScaffold.Text.Alphanumeric

/-!
# Cutting a statement into tokens

Every step reads one token, or one run of blanks or comment, from the front of the text. The
dialects differ in which characters a word may hold, in the quotes they know, in their comments
and in whether a backslash escapes inside a literal.
-/

namespace SchemaScaffold.Sql

def backtick : Char := Char.ofNat 0x60

namespace Lexer

def isWordStart (dialect : Dialect) (c : Char) : Bool :=
  c.isAlpha || c == '_' || 0x80 ≤ c.toNat
    || (dialect == .mysql && (c == '$' || c == '@'))

def isWordPart (dialect : Dialect) (c : Char) : Bool :=
  isWordStart dialect c || c.isDigit || c == '$'

def identifierQuote : Dialect → Char
  | .mysql => backtick
  | .postgresql => '"'

def backslashEscapes (dialect : Dialect) : Bool := dialect == .mysql

def isOperatorPart (c : Char) : Bool :=
  "+-*/<>=~!@#%^&|?".toList.contains c || c == backtick

def afterLine (dialect : Dialect) (text : List Char) : List Char :=
  (text.dropWhile fun c => c != '\n' && !(dialect == .postgresql && c == '\r')).drop 1

/-- What follows a block comment that is `depth + 1` levels deep. Only PostgreSQL nests them. -/
def afterBlockComment (dialect : Dialect) : Nat → List Char → Option (List Char)
  | 0, '*' :: '/' :: rest => some rest
  | depth + 1, '*' :: '/' :: rest => afterBlockComment dialect depth rest
  | depth, '/' :: '*' :: rest =>
    if dialect == .postgresql then afterBlockComment dialect (depth + 1) rest
    else afterBlockComment dialect depth ('*' :: rest)
  | depth, _ :: rest => afterBlockComment dialect depth rest
  | _, [] => none
termination_by _ text => text.length

/-- One token and the text after it; no token when blanks or a comment were read. -/
abbrev Step := Except SyntaxError (Option Token × List Char)

def token (t : Token) (rest : List Char) : Step := .ok (some t, rest)

def wordStep (dialect : Dialect) (start rest : List Char) : Step :=
  token (.ofWord (String.ofList (start ++ rest.takeWhile (isWordPart dialect))) none)
    (rest.dropWhile (isWordPart dialect))

def literalStep (make : String → Token) (source : List Char) (quote : Char) (escapes : Bool)
    (rest : List Char) : Step :=
  match Literal.read quote escapes rest with
  | some (text, after) => token (make (String.ofList text)) after
  | none => .error (.lexical "Unterminated string literal" source)

def quotedWordStep (source : List Char) (quote : Char) (rest : List Char) : Step :=
  match Literal.read quote false rest with
  | some (text, after) => token (.ofWord (String.ofList text) (some quote)) after
  | none =>
    .error (.lexical ("Expected close delimiter '" ++ quote.toString ++ "' before EOF.") source)

def exponent : List Char → Option (List Char × List Char)
  | e :: rest =>
    if e == 'e' || e == 'E' then
      let (sign, digits) := match rest with
        | '+' :: more => (['+'], more)
        | '-' :: more => (['-'], more)
        | more => ([], more)
      if digits.head?.any Char.isDigit then
        some (e :: sign ++ digits.takeWhile Char.isDigit, digits.dropWhile Char.isDigit)
      else none
    else none
  | [] => none

def isHexDigit (c : Char) : Bool := c.isDigit || "abcdefABCDEF".toList.contains c

def numberStep (dialect : Dialect) (previous : Option Token) (source : List Char) : Step :=
  let afterWord := match previous with
    | some (.word ..) => true
    | _ => false
  match source with
  | '.' :: '_' :: rest =>
    if afterWord then token (.symbol ".") ('_' :: rest)
    else .error (.lexical "Unexpected character '_'" source)
  | _ =>
    let whole := source.takeWhile Char.isDigit
    let rest := source.dropWhile Char.isDigit
    match whole, rest with
    | ['0'], 'x' :: more =>
      token (.hexLiteral (String.ofList (more.takeWhile isHexDigit))) (more.dropWhile isHexDigit)
    | _, _ =>
      let (whole, rest) := match rest with
        | '.' :: more => (whole ++ ['.'], more)
        | _ => (whole, rest)
      if whole == ['.'] && dialect == .mysql && afterWord then token (.symbol ".") rest
      else
        let digits := whole ++ rest.takeWhile Char.isDigit
        let rest := rest.dropWhile Char.isDigit
        if digits == ['.'] then token (.symbol ".") rest
        else match exponent rest with
          | some (power, after) =>
            let text := String.ofList (digits ++ power)
            if dialect == .mysql && previous == some (.symbol ".") then
              token (.ofWord text none) after
            else long text after
          | none =>
            let word := if dialect == .mysql then rest.takeWhile (isWordPart dialect) else []
            if word.isEmpty then long (String.ofList digits) rest
            else token (.ofWord (String.ofList (digits ++ word)) none)
              (rest.dropWhile (isWordPart dialect))
where
  long (text : String) : List Char → Step
    | 'L' :: rest => token (.number text true) rest
    | rest => token (.number text false) rest

def splitAtMark (mark : List Char) : List Char → Option (List Char × List Char)
  | [] => none
  | c :: rest =>
    if mark.isPrefixOf (c :: rest) then some ([], (c :: rest).drop mark.length)
    else (splitAtMark mark rest).map fun (text, after) => (c :: text, after)

def dollarStep (source rest : List Char) : Step :=
  let isTag := fun c => isAlphanumeric c || c == '_'
  let tag := rest.takeWhile isTag
  match rest.dropWhile isTag with
  | '$' :: body =>
    match splitAtMark ('$' :: tag ++ ['$']) body with
    | some (text, after) => token (.dollarQuoted (String.ofList text) (String.ofList tag)) after
    | none => .error (.lexical "Unterminated dollar-quoted string" source)
  | after => token (.placeholder (String.ofList ('$' :: tag))) after
where
  isAlphanumeric : Char → Bool := Text.isAlphanumeric

def openOperator (dialect : Dialect) (start : String) (rest : List Char) : Step :=
  if dialect == .postgresql then
    token (.symbol (start ++ String.ofList (rest.takeWhile isOperatorPart)))
      (rest.dropWhile isOperatorPart)
  else token (.symbol start) rest

def symbolStep (dialect : Dialect) : List Char → Step
  | '-' :: '>' :: '>' :: rest => openOperator dialect "->>" rest
  | '-' :: '>' :: rest => openOperator dialect "->" rest
  | '-' :: rest => openOperator dialect "-" rest
  | '=' :: '>' :: rest => token (.symbol "=>") rest
  | '=' :: '=' :: rest => token (.symbol "==") rest
  | '!' :: '=' :: rest => token (.symbol "!=") rest
  | '!' :: '!' :: rest => token (.symbol "!!") rest
  | '!' :: '~' :: rest => openOperator dialect "!~" rest
  | '<' :: '=' :: '>' :: rest => openOperator dialect "<=>" rest
  | '<' :: '=' :: rest => openOperator dialect "<=" rest
  | '<' :: '>' :: rest => openOperator dialect "<>" rest
  | '<' :: '<' :: rest => openOperator dialect "<<" rest
  | '<' :: '@' :: rest => openOperator dialect "<@" rest
  | '<' :: rest => openOperator dialect "<" rest
  | '>' :: '=' :: rest => openOperator dialect ">=" rest
  | '>' :: '>' :: rest => openOperator dialect ">>" rest
  | '>' :: rest => openOperator dialect ">" rest
  | '|' :: '|' :: rest => openOperator dialect "||" rest
  | '|' :: rest => openOperator dialect "|" rest
  | '&' :: '&' :: rest => openOperator dialect "&&" rest
  | '&' :: rest => openOperator dialect "&" rest
  | '~' :: rest => openOperator dialect "~" rest
  | '#' :: rest => openOperator dialect "#" rest
  | '@' :: rest => openOperator dialect "@" rest
  | '%' :: rest => openOperator dialect "%" rest
  | ':' :: ':' :: rest => token (.symbol "::") rest
  | ':' :: '=' :: rest => token (.symbol ":=") rest
  | c :: rest =>
    if "+*/=!()[],;:\\^{}".toList.contains c then token (.symbol c.toString) rest
    else if Text.isBlank c then .ok (none, rest)
    else token (.stray c) rest
  | [] => .ok (none, [])

def atStep (dialect : Dialect) (source : List Char) : Step :=
  match source with
  | '@' :: '@' :: c :: rest =>
    if c == ' ' then token (.symbol "@@") (c :: rest) else wordStep dialect ['@', '@', c] rest
  | ['@', '@'] => token (.symbol "@@") []
  | '@' :: c :: rest =>
    if c == ' ' || c == '\'' || c == '"' || c == backtick then token (.symbol "@") (c :: rest)
    else wordStep dialect ['@', c] rest
  | _ => symbolStep dialect source

def letterStep (dialect : Dialect) (c : Char) (source rest : List Char) : Step :=
  match c.toUpper, rest with
  | 'B', '\'' :: more => literalStep (.bitLiteral · '\'') source '\'' false more
  | 'B', '"' :: more => literalStep (.bitLiteral · '"') source '"' false more
  | 'N', '\'' :: more => literalStep .nationalLiteral source '\'' (backslashEscapes dialect) more
  | 'X', '\'' :: more => literalStep .hexLiteral source '\'' true more
  | 'E', '\'' :: more =>
    if dialect == .postgresql then
      match Literal.readEscaped more with
      | some (text, after) => token (.escapedLiteral (String.ofList text)) after
      | none => .error (.lexical "Unterminated encoded string literal" source)
    else wordStep dialect [c] rest
  | 'U', '&' :: '\'' :: more =>
    if dialect == .postgresql then literalStep .unicodeLiteral source '\'' false more
    else wordStep dialect [c] rest
  | _, _ => wordStep dialect [c] rest

/-- Reads one token, one blank or one comment. `previous` is the token right before it. -/
def step (dialect : Dialect) (previous : Option Token) (source : List Char) : Step :=
  match source with
  | [] => .ok (none, [])
  | '-' :: '-' :: rest =>
    if dialect == .mysql && !rest.head?.any Text.isBlank then symbolStep dialect source
    else .ok (none, afterLine dialect rest)
  | '/' :: '*' :: rest =>
    match afterBlockComment dialect 0 rest with
    | some after => .ok (none, after)
    | none => .error (.lexical "Unexpected EOF while in a multi-line comment" [])
  | c :: rest =>
    if c == '#' && dialect == .mysql then .ok (none, afterLine dialect rest)
    else if c == '\'' then
      literalStep .singleQuoted source c (backslashEscapes dialect) rest
    else if c == identifierQuote dialect then quotedWordStep source c rest
    else if c == '"' then literalStep .doubleQuoted source c (backslashEscapes dialect) rest
    else if c.isDigit || c == '.' then numberStep dialect previous source
    else if c == '@' && dialect == .mysql then atStep dialect source
    else if c == '?' then
      if dialect == .postgresql then openOperator dialect "?" rest
      else token (.placeholder (String.ofList ('?' :: rest.takeWhile Char.isDigit)))
        (rest.dropWhile Char.isDigit)
    else if isWordStart dialect c then letterStep dialect c source rest
    else if c == '$' then dollarStep source rest
    else symbolStep dialect source

def run (dialect : Dialect) (fuel : Nat) (previous : Option Token) (read : List Lexeme)
    (source : List Char) : Except SyntaxError (List Lexeme) :=
  match fuel, source with
  | _, [] => .ok read.reverse
  | 0, _ => .ok read.reverse
  | fuel + 1, _ =>
    match step dialect previous source with
    | .error e => .error e
    | .ok (none, rest) => run dialect fuel none read rest
    | .ok (some t, rest) => run dialect fuel (some t) (⟨t, source⟩ :: read) rest

end Lexer

/-- The tokens of a statement. Every step reads at least one character, so that as many steps as
there are characters read them all. -/
def tokens (dialect : Dialect) (text : List Char) : Except SyntaxError (List Lexeme) :=
  Lexer.run dialect text.length none [] text

end SchemaScaffold.Sql
