import SchemaScaffold.Script.Quoted
import SchemaScaffold.Text.Alphanumeric

/-!
# The comment among the table options

The table options of a statement are what follows the bracketed list of columns. The comment of
the table is the first quoted text among them that the word `COMMENT` announces.
-/

namespace SchemaScaffold.Script

/-- What follows the closing bracket of a list that is `depth` brackets deep. Brackets in quoted
runs do not count. There is none when the list is never closed. -/
def afterClosing (depth : Nat) (text : List Char) : Option (List Char) :=
  match text with
  | [] => none
  | c :: rest =>
    if isQuote c then
      have := length_ahead_skipQuoted c [] rest
      afterClosing depth (skipQuoted c [] rest).ahead
    else if c == '(' then afterClosing (depth + 1) rest
    else if c == ')' then
      match depth with
      | 0 | 1 => some rest
      | depth + 2 => afterClosing (depth + 1) rest
    else afterClosing depth rest
termination_by text.length
decreasing_by all_goals grind

def tableOptions (statement : List Char) : Option (List Char) :=
  afterClosing 0 (statement.dropWhile (· != '('))

/-- Reads a text whose opening quote has been read, up to its closing quote. A doubled quote stands
for one, unless no closing quote follows it: then the first of the two closes the text. -/
def quotedText (quote : Char) : List Char → Option (List Char)
  | [] => none
  | [c] => if c == quote then some [] else none
  | c :: d :: rest =>
    if c == quote then
      if d == quote then ((quotedText quote rest).map (quote :: ·)).or (some [])
      else some []
    else (quotedText quote (d :: rest)).map (c :: ·)

def stripWord : List Char → List Char → Option (List Char)
  | [], text => some text
  | w :: word, c :: text => if c.toUpper == w then stripWord word text else none
  | _ :: _, [] => none

def commentHere (text : List Char) : Option (List Char) := do
  let rest ← stripWord "COMMENT".toList text
  let rest := Text.trimStart rest
  let rest := match rest with
    | '=' :: more => Text.trimStart more
    | _ => rest
  match rest with
  | '\'' :: body => quotedText '\'' body
  | '"' :: body => quotedText '"' body
  | _ => none

/-- The first comment in a text. `afterWord` tells whether a character that words hold stands right
before it, in which case no new word begins there. -/
def commentFrom (afterWord : Bool) : List Char → Option (List Char)
  | [] => none
  | c :: rest =>
    let here := if afterWord then none else commentHere (c :: rest)
    here.or (commentFrom (Text.isWordChar c) rest)

def optionComment (options : List Char) : Option (List Char) := commentFrom false options

def tableComment (statement : String) : Option String :=
  ((tableOptions statement.toList).bind optionComment).map String.ofList

end SchemaScaffold.Script
