import SchemaScaffold.Script.Quoted

/-!
# The statements of a script

A script is cut at its top-level semicolons: those outside quoted runs, comments and bodies between
double dollar signs. What is left between two cuts is trimmed, and blank pieces are dropped.
-/

namespace SchemaScaffold.Script

/-- Passes over the construct at the front of a text: a quoted run, a comment, a body between
double dollar signs, or else one character that is not a semicolon. -/
def skipItem (passed : List Char) (c : Char) (rest : List Char) : Cursor :=
  if isQuote c then skipQuoted c (c :: passed) rest
  else match c, rest with
    | '-', '-' :: more => skipLine ('-' :: '-' :: passed) more
    | '#', more => skipLine ('#' :: passed) more
    | '/', '*' :: more => skipPast '*' '/' ('*' :: '/' :: passed) more
    | '$', '$' :: more => skipPast '$' '$' ('$' :: '$' :: passed) more
    | _, _ => ⟨c :: passed, rest⟩

theorem length_ahead_skipItem (passed : List Char) (c : Char) (rest : List Char) :
    (skipItem passed c rest).ahead.length ≤ rest.length := by
  unfold skipItem
  split
  · exact length_ahead_skipQuoted ..
  · split
    · exact Nat.le_succ_of_le (length_ahead_skipLine ..)
    · exact length_ahead_skipLine ..
    · exact Nat.le_succ_of_le (length_ahead_skipPast ..)
    · exact Nat.le_succ_of_le (length_ahead_skipPast ..)
    · exact Nat.le_refl _

/-- The pieces of a text between its top-level semicolons. `passed` is the part of the first piece
that was passed already, last character first. -/
def piecesFrom (passed : List Char) (text : List Char) : List (List Char) :=
  match text with
  | [] => [passed.reverse]
  | c :: rest =>
    if c == ';' then passed.reverse :: piecesFrom [] rest
    else
      let next := skipItem passed c rest
      have := length_ahead_skipItem passed c rest
      piecesFrom next.passed next.ahead
termination_by text.length
decreasing_by all_goals grind

def pieces (script : List Char) : List (List Char) := piecesFrom [] script

def statementLists (script : List Char) : List (List Char) :=
  ((pieces script).map Text.trimList).filter fun piece => !piece.isEmpty

def statements (script : String) : List String :=
  (statementLists script.toList).map String.ofList

end SchemaScaffold.Script
