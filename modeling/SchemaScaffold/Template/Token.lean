import SchemaScaffold.Text.Blank
import SchemaScaffold.Text.Digits

namespace SchemaScaffold.Template

inductive Token where
  | name (s : String)
  | number (n : Nat)
  | text (s : String)
  | mark (c : Char)
  | equals
  deriving DecidableEq, Repr, Inhabited

inductive TagKind where
  | print
  | control
  | comment
  deriving DecidableEq, Repr, Inhabited

inductive Chunk where
  | plain (chars : List Char)
  | tag (kind : TagKind) (line : Nat) (tokens : List Token)
  deriving DecidableEq, Repr, Inhabited

def leftBrace : Char := '\x7b'

def rightBrace : Char := '\x7d'

namespace TagKind

def ofChar? (c : Char) : Option TagKind :=
  if c == leftBrace then some print
  else if c == '%' then some control
  else if c == '#' then some comment
  else none

def closing : TagKind → Char × Char
  | print => (rightBrace, rightBrace)
  | control => ('%', rightBrace)
  | comment => ('#', rightBrace)

end TagKind

inductive Pending where
  | nothing
  | word (chars : List Char)
  | digits (chars : List Char)
  | quoted (quote : Char) (chars : List Char)
  | escaped (quote : Char) (chars : List Char)
  | equals
  deriving DecidableEq, Repr, Inhabited

/-- The tokens so far, the last one first, once the pending one has ended. -/
def Pending.flush (tokens : List Token) : Pending → List Token
  | nothing => tokens
  | word chars => .name (String.ofList chars.reverse) :: tokens
  | digits chars => .number (Text.digitsNumber chars.reverse) :: tokens
  | equals => .mark '=' :: tokens
  | quoted _ chars | escaped _ chars => .text (String.ofList chars.reverse) :: tokens

def isNameStart (c : Char) : Bool := c.isAlpha || c == '_'

def marks : List Char := ['.', ',', ':', '[', ']', '(', ')', '|', '-']

def unescape? : Char → Option Char
  | 'n' => some '\n'
  | 't' => some '\t'
  | 'r' => some '\r'
  | '\\' => some '\\'
  | '"' => some '"'
  | '\'' => some '\''
  | _ => none

def readTagChar (c : Char) (tokens : List Token) : Pending → Option (List Token × Pending)
  | .quoted quote chars =>
    if c == quote then some (.text (String.ofList chars.reverse) :: tokens, .nothing)
    else if c == '\\' then some (tokens, .escaped quote chars)
    else some (tokens, .quoted quote (c :: chars))
  | .escaped quote chars => (unescape? c).map fun d => (tokens, .quoted quote (d :: chars))
  | .equals =>
    if c == '=' then some (.equals :: tokens, .nothing) else outside (.mark '=' :: tokens)
  | .word chars =>
    if isNameStart c || c.isDigit then some (tokens, .word (c :: chars))
    else outside (Pending.flush tokens (.word chars))
  | .digits chars =>
    if c.isDigit then some (tokens, .digits (c :: chars))
    else outside (Pending.flush tokens (.digits chars))
  | .nothing => outside tokens
where
  outside (tokens : List Token) : Option (List Token × Pending) :=
    if Text.isBlank c then some (tokens, .nothing)
    else if isNameStart c then some (tokens, .word [c])
    else if c.isDigit then some (tokens, .digits [c])
    else if c == '"' || c == '\'' then some (tokens, .quoted c [])
    else if c == '=' then some (tokens, .equals)
    else if marks.contains c then some (.mark c :: tokens, .nothing)
    else none

def Pending.isQuoted : Pending → Bool
  | quoted .. | escaped .. => true
  | _ => false

/-- What follows the end of a tag, if the tag ends here; and whether blanks are taken away there. -/
def tagEnd? (closing : Char × Char) (chars : List Char) : Option (Bool × List Char) :=
  match chars with
  | a :: b :: rest =>
    if (a, b) == closing then some (false, rest)
    else
      match rest with
      | c :: rest => if (b, c) == closing && (a == '-' || a == '+') then some (a == '-', rest)
                     else none
      | [] => none
  | _ => none

def readTag (closing : Char × Char) (tokens : List Token) (pending : Pending) :
    List Char → Option (List Token × Bool × List Char)
  | [] => none
  | c :: rest =>
    match if pending.isQuoted then none else tagEnd? closing (c :: rest) with
    | some (trim, after) => some ((pending.flush tokens).reverse, trim, after)
    | none =>
      match readTagChar c tokens pending with
      | some (tokens, pending) => readTag closing tokens pending rest
      | none => none

def skipComment : List Char → Option (Bool × List Char)
  | [] => none
  | c :: rest =>
    match tagEnd? TagKind.comment.closing (c :: rest) with
    | some found => some found
    | none => skipComment rest

/-- The text before the next tag; the kind of that tag and what follows its delimiter. -/
def nextTag : List Char → List Char × Option (TagKind × List Char)
  | [] => ([], none)
  | c :: rest =>
    match if c == leftBrace then rest.head?.bind TagKind.ofChar? else none with
    | some kind => ([], some (kind, rest.tail))
    | none =>
      let (before, found) := nextTag rest
      (c :: before, found)

def lineEnds (chars : List Char) : Nat := chars.count '\n'

def afterSign : List Char → List Char
  | c :: rest => if c == '-' || c == '+' then rest else c :: rest
  | [] => []

def plainChunk (chars : List Char) : List Chunk :=
  if chars.isEmpty then [] else [.plain chars]

/-- Cuts a template into chunks, given how many line ends the whole of it has. `trim` says whether
blanks in front are taken away. At most `fuel` tags are read. -/
def readChunks (ends : Nat) : Nat → Bool → List Char → Option (List Chunk)
  | 0, _, _ => none
  | fuel + 1, trim, chars =>
    let chars := if trim then Text.trimStart chars else chars
    match nextTag chars with
    | (before, none) => some (plainChunk before)
    | (before, some (kind, rest)) =>
      let before := if rest.head? == some '-' then Text.trimEnd before else before
      let tag := match kind with
        | .comment => (skipComment rest).map fun (trim, after) => ([], trim, after)
        | .print | .control =>
          let inner := afterSign rest
          let line := 1 + ends - lineEnds (Text.trimStart inner)
          (readTag kind.closing [] .nothing inner).map fun (tokens, trim, after) =>
            ([Chunk.tag kind line tokens], trim, after)
      match tag with
      | none => none
      | some (chunk, trim, after) =>
        (readChunks ends fuel trim after).map fun others => plainChunk before ++ chunk ++ others

/-- The chunks of a template, or none if some tag is not well formed. -/
def chunks? (chars : List Char) : Option (List Chunk) :=
  readChunks (lineEnds chars) (chars.length + 1) false chars

end SchemaScaffold.Template
