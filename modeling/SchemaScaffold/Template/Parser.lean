import SchemaScaffold.Error
import SchemaScaffold.Template.Part
import SchemaScaffold.Template.Token

/-!
# Parsing templates

Expressions are parsed from the weakest operation to the strongest: a choice, `or`, `and`, `not`,
`==`, filters, and what is appended to a value. All functions take fuel, of which the number of
tokens or chunks is always enough.
-/

namespace SchemaScaffold.Template

structure Macro where
  name : String
  parameters : List String
  body : List Part

abbrev ExprParser := List Token → Option (Expr × List Token)

def slicePosition : List Token → Option Nat × List Token
  | .number n :: rest => (some n, rest)
  | tokens => (none, tokens)

def wordValue? (word : String) : Option Value :=
  if word == "true" || word == "True" then some (.bool true)
  else if word == "false" || word == "False" then some (.bool false)
  else if word == "none" || word == "None" then some .null
  else none

def reservedWords : List String := ["and", "or", "not", "if", "else", "in", "is"]

def filter? (name : String) (text : Expr) (arguments : List Expr) : Option Expr :=
  match name, arguments with
  | "upper", [] => some (.upper text)
  | "lower", [] => some (.lower text)
  | "replace", [pattern, replacement] => some (.replace text pattern replacement)
  | _, _ => none

def parseArguments (expr : ExprParser) : Nat → List Token → Option (List Expr × List Token)
  | 0, _ => none
  | fuel + 1, tokens =>
    match tokens with
    | .mark ')' :: rest => some ([], rest)
    | _ =>
      match expr tokens with
      | some (first, .mark ',' :: rest) =>
        (parseArguments expr fuel rest).map fun (others, rest) => (first :: others, rest)
      | some (first, .mark ')' :: rest) => some ([first], rest)
      | _ => none

def parseSuffixes (expr : ExprParser) (whole : Expr) : Nat → List Token →
    Option (Expr × List Token)
  | 0, _ => none
  | fuel + 1, tokens =>
    match tokens with
    | .mark '.' :: .name key :: rest => parseSuffixes expr (.field whole key) fuel rest
    | .mark '[' :: .mark '-' :: .number n :: .mark ']' :: rest =>
      parseSuffixes expr (.itemFromEnd whole n) fuel rest
    | .mark '[' :: rest =>
      match slicePosition rest with
      | (start, .mark ':' :: rest) =>
        match slicePosition rest with
        | (stop, .mark ']' :: rest) =>
          parseSuffixes expr (.slice whole (start.getD 0) stop) fuel rest
        | _ => none
      | _ =>
        match expr rest with
        | some (key, .mark ']' :: rest) => parseSuffixes expr (.item whole key) fuel rest
        | _ => none
    | _ => some (whole, tokens)

def parseFilters (expr : ExprParser) (text : Expr) : Nat → List Token →
    Option (Expr × List Token)
  | 0, _ => none
  | fuel + 1, tokens =>
    match tokens with
    | .mark '|' :: .name name :: .mark '(' :: rest =>
      match parseArguments expr (rest.length + 1) rest with
      | some (arguments, rest) =>
        match filter? name text arguments with
        | some filtered => parseFilters expr filtered fuel rest
        | none => none
      | none => none
    | .mark '|' :: .name name :: rest =>
      match filter? name text [] with
      | some filtered => parseFilters expr filtered fuel rest
      | none => none
    | .mark '|' :: _ => none
    | _ => some (text, tokens)

def parsePrimary (macros : List Macro) (expr : ExprParser) :
    List Token → Option (Expr × List Token)
  | .text s :: rest => some (.constant (.text s), rest)
  | .number n :: rest => some (.constant (.number n), rest)
  | .mark '(' :: rest =>
    match expr rest with
    | some (inner, .mark ')' :: rest) => some (inner, rest)
    | _ => none
  | .name word :: .mark '(' :: rest =>
    match macros.find? (·.name == word), parseArguments expr (rest.length + 1) rest with
    | some found, some (arguments, rest) =>
      some (.call word found.parameters found.body arguments, rest)
    | _, _ => none
  | .name word :: rest =>
    if reservedWords.contains word then none
    else
      match wordValue? word with
      | some value => some (.constant value, rest)
      | none => some (.variable word, rest)
  | _ => none

def parseFiltered (macros : List Macro) (expr : ExprParser) (tokens : List Token) :
    Option (Expr × List Token) := do
  let (primary, rest) ← parsePrimary macros expr tokens
  let (whole, rest) ← parseSuffixes expr primary (rest.length + 1) rest
  parseFilters expr whole (rest.length + 1) rest

def parseChain (operand : ExprParser) (operation : Token) (make : Expr → Expr → Expr)
    (left : Expr) : Nat → List Token → Option (Expr × List Token)
  | 0, _ => none
  | fuel + 1, tokens =>
    match tokens with
    | [] => some (left, [])
    | token :: rest =>
      if token = operation then
        match operand rest with
        | some (right, rest) => parseChain operand operation make (make left right) fuel rest
        | none => none
      else some (left, tokens)

def parseChainFrom (operand : ExprParser) (operation : Token) (make : Expr → Expr → Expr)
    (tokens : List Token) : Option (Expr × List Token) := do
  let (first, rest) ← operand tokens
  parseChain operand operation make first (rest.length + 1) rest

def parseNegation (operand : ExprParser) : Nat → List Token → Option (Expr × List Token)
  | 0, _ => none
  | fuel + 1, tokens =>
    match tokens with
    | .name "not" :: rest =>
      (parseNegation operand fuel rest).map fun (inner, rest) => (.negation inner, rest)
    | _ => parseChainFrom operand .equals .equal tokens

def parseDisjunction (macros : List Macro) (expr : ExprParser) : ExprParser :=
  let negation := fun tokens : List Token =>
    parseNegation (parseFiltered macros expr) (tokens.length + 1) tokens
  parseChainFrom (parseChainFrom negation (.name "and") .both) (.name "or") .either

def parseExpr (macros : List Macro) : Nat → List Token → Option (Expr × List Token)
  | 0, _ => none
  | fuel + 1, tokens => do
    let disjunction := parseDisjunction macros (parseExpr macros fuel)
    let (yes, rest) ← disjunction tokens
    match rest with
    | .name "if" :: rest =>
      let (condition, rest) ← disjunction rest
      match rest with
      | .name "else" :: rest =>
        let (no, rest) ← parseExpr macros fuel rest
        return (.choice condition yes (some no), rest)
      | _ => return (.choice condition yes none, rest)
    | _ => return (yes, rest)

def wholeExpr? (macros : List Macro) (tokens : List Token) : Option Expr :=
  match parseExpr macros (tokens.length + 1) tokens with
  | some (expr, []) => some expr
  | _ => none

def loopSource? (macros : List Macro) (tokens : List Token) : Option (Expr × Option Expr) :=
  match parseDisjunction macros (parseExpr macros (tokens.length + 1)) tokens with
  | some (items, []) => some (items, none)
  | some (items, .name "if" :: rest) =>
    (wholeExpr? macros rest).map fun condition => (items, some condition)
  | _ => none

def parameters? : List Token → Option (List String)
  | [.mark ')'] => some []
  | [.name x, .mark ')'] => some [x]
  | .name x :: .mark ',' :: rest => (parameters? rest).map (x :: ·)
  | _ => none

/-- The words that end a list of parts, or begin another one of the same tag. -/
def endingWords : List String := ["elif", "else", "endif", "endfor", "endmacro"]

abbrev Parsed := List Part × List Macro × List Chunk

mutual

def parseParts (macros : List Macro) : Nat → List Chunk → Option Parsed
  | 0, _ => none
  | _, [] => some ([], macros, [])
  | fuel + 1, .plain chars :: rest => do
    let (parts, macros, rest) ← parseParts macros fuel rest
    return (.plain chars :: parts, macros, rest)
  | fuel + 1, .tag .control line tokens :: rest =>
    match tokens with
    | .name word :: inner =>
      if endingWords.contains word then some ([], macros, .tag .control line tokens :: rest)
      else do
        let (part, macros, rest) ← parseControl macros fuel line word inner rest
        let (parts, macros, rest) ← parseParts macros fuel rest
        return (part :: parts, macros, rest)
    | _ => none
  | fuel + 1, .tag _ line tokens :: rest => do
    let expr ← wholeExpr? macros tokens
    let (parts, macros, rest) ← parseParts macros fuel rest
    return (.print line expr :: parts, macros, rest)

def parseControl (macros : List Macro) : Nat → Nat → String → List Token → List Chunk →
    Option (Part × List Macro × List Chunk)
  | 0, _, _, _, _ => none
  | fuel + 1, line, word, tokens, rest =>
    match word, tokens with
    | "if", tokens => do
      let condition ← wholeExpr? macros tokens
      let (yes, macros, rest) ← parseParts macros fuel rest
      let (no, macros, rest) ← parseAlternative macros fuel rest
      return (.branch line condition yes no, macros, rest)
    | "for", .name x :: .name "in" :: tokens => do
      let (items, condition) ← loopSource? macros tokens
      let (body, macros, rest) ← parseParts macros fuel rest
      match rest with
      | .tag .control _ [.name "endfor"] :: rest =>
        return (.each line x items condition body, macros, rest)
      | _ => none
    | "set", .name x :: .mark '=' :: tokens => do
      let expr ← wholeExpr? macros tokens
      return (.assign line x expr, macros, rest)
    | "macro", .name x :: .mark '(' :: tokens => do
      let parameters ← parameters? tokens
      let (body, macros, rest) ← parseParts macros fuel rest
      match rest with
      | .tag .control _ [.name "endmacro"] :: rest =>
        return (.define x, { name := x, parameters, body } :: macros, rest)
      | _ => none
    | _, _ => none

def parseAlternative (macros : List Macro) : Nat → List Chunk → Option Parsed
  | 0, _ => none
  | fuel + 1, .tag .control line (.name word :: tokens) :: rest =>
    match word with
    | "endif" => if tokens.isEmpty then some ([], macros, rest) else none
    | "else" => do
      let (no, macros, rest) ← parseParts macros fuel rest
      match tokens, rest with
      | [], .tag .control _ [.name "endif"] :: rest => return (no, macros, rest)
      | _, _ => none
    | "elif" => do
      let condition ← wholeExpr? macros tokens
      let (yes, macros, rest) ← parseParts macros fuel rest
      let (no, macros, rest) ← parseAlternative macros fuel rest
      return ([.branch line condition yes no], macros, rest)
    | _ => none
  | _ + 1, _ => none

end

/-- The parts of a template, or none if its text is not well formed. -/
def parse? (chars : List Char) : Option (List Part) := do
  let chunks ← chunks? chars
  let (parts, _, rest) ← parseParts [] (2 * chunks.length + 2) chunks
  if rest.isEmpty then return parts else none

end SchemaScaffold.Template
