import SchemaScaffold.Text.Blank

/-!
# Skipping quoted runs and comments

A script is looked at before it is parsed: to find where its statements end, and to find the table
options of a statement. Both have to pass over quoted runs, and the first over comments as well.
A cursor keeps what was passed, so that no character is lost.
-/

namespace SchemaScaffold.Script

structure Cursor where
  passed : List Char
  ahead : List Char
  deriving Repr

def backtick : Char := Char.ofNat 0x60

def isQuote (c : Char) : Bool := c == '\'' || c == '"' || c == backtick

/-- Passes over a quoted run whose opening quote has been passed. A doubled quote stays inside, and
so does an escaped character, but between backticks a backslash escapes nothing. A run that is
never closed goes on to the end. -/
def skipQuoted (quote : Char) (passed : List Char) : List Char → Cursor
  | [] => ⟨passed, []⟩
  | [c] => ⟨c :: passed, []⟩
  | c :: d :: rest =>
    if c == '\\' && quote != backtick then skipQuoted quote (d :: c :: passed) rest
    else if c == quote then
      if d == quote then skipQuoted quote (d :: c :: passed) rest
      else ⟨c :: passed, d :: rest⟩
    else skipQuoted quote (c :: passed) (d :: rest)

def skipLine (passed : List Char) : List Char → Cursor
  | [] => ⟨passed, []⟩
  | c :: rest => if c == '\n' then ⟨c :: passed, rest⟩ else skipLine (c :: passed) rest

def skipPast (a b : Char) (passed : List Char) : List Char → Cursor
  | [] => ⟨passed, []⟩
  | [c] => ⟨c :: passed, []⟩
  | c :: d :: rest =>
    if c == a && d == b then ⟨d :: c :: passed, rest⟩ else skipPast a b (c :: passed) (d :: rest)

theorem length_ahead_skipQuoted (quote : Char) (passed text : List Char) :
    (skipQuoted quote passed text).ahead.length ≤ text.length := by
  fun_induction skipQuoted quote passed text <;> grind

theorem length_ahead_skipLine (passed text : List Char) :
    (skipLine passed text).ahead.length ≤ text.length := by
  fun_induction skipLine passed text <;> grind

theorem length_ahead_skipPast (a b : Char) (passed text : List Char) :
    (skipPast a b passed text).ahead.length ≤ text.length := by
  fun_induction skipPast a b passed text <;> grind

end SchemaScaffold.Script
