import SchemaScaffold.Text.Blank

namespace SchemaScaffold.Sql.Literal

def unescape : Char → Char
  | '0' => Char.ofNat 0
  | 'a' => Char.ofNat 7
  | 'b' => Char.ofNat 8
  | 'f' => Char.ofNat 12
  | 'n' => '\n'
  | 'r' => '\r'
  | 't' => '\t'
  | 'Z' => Char.ofNat 26
  | c => c

/-- The characters that an escape sequence stands for. A wildcard of patterns keeps its
backslash. -/
def escapeSequence (c : Char) : List Char :=
  if c == '%' || c == '_' then ['\\', c] else [unescape c]

/-- Reads a literal whose opening quote has been read: the text that it denotes, and what follows
its closing quote. There is none when the quote is never closed. -/
def read (quote : Char) (escapes : Bool) : List Char → Option (List Char × List Char)
  | [] => none
  | [c] => if c == quote then some ([], []) else none
  | c :: d :: rest =>
    if c == quote then
      if d == quote then (read quote escapes rest).map fun (text, after) => (quote :: text, after)
      else some ([], d :: rest)
    else if escapes && c == '\\' then
      (read quote escapes rest).map fun (text, after) => (escapeSequence d ++ text, after)
    else (read quote escapes (d :: rest)).map fun (text, after) => (c :: text, after)

/-- Writes a text between quotes. A quote is doubled unless a backslash or a second quote already
escapes it. -/
def escapeQuotes (quote : Char) (before : Char) : List Char → List Char
  | [] => []
  | [c] => if c == quote && before != '\\' then [c, c] else [c]
  | c :: d :: rest =>
    if c == quote then
      if before == '\\' then c :: escapeQuotes quote before (d :: rest)
      else if d == quote then c :: d :: escapeQuotes quote c rest
      else c :: c :: escapeQuotes quote c (d :: rest)
    else c :: escapeQuotes quote c (d :: rest)

def write (quote : Char) (text : String) : String :=
  String.ofList (quote :: escapeQuotes quote (Char.ofNat 0) text.toList ++ [quote])

def readEscaped : List Char → Option (List Char × List Char)
  | [] => none
  | ['\''] => some ([], [])
  | [_] => none
  | '\'' :: '\'' :: rest => (readEscaped rest).map fun (text, after) => ('\'' :: text, after)
  | '\'' :: d :: rest => some ([], d :: rest)
  | '\\' :: d :: rest =>
    (readEscaped rest).map fun (text, after) => (plainEscape d :: text, after)
  | c :: d :: rest => (readEscaped (d :: rest)).map fun (text, after) => (c :: text, after)
where
  plainEscape : Char → Char
    | 'b' => Char.ofNat 8
    | 'f' => Char.ofNat 12
    | 'n' => '\n'
    | 'r' => '\r'
    | 't' => '\t'
    | c => c

def showEscaped (text : String) : String :=
  String.join (text.toList.map fun c =>
    if c == '\'' then "\\'" else if c == '\\' then "\\\\" else if c == '\n' then "\\n"
    else if c == '\t' then "\\t" else if c == '\r' then "\\r" else c.toString)

end SchemaScaffold.Sql.Literal
