import SchemaScaffold.Config.Toml.Scalar

namespace SchemaScaffold.Config.Toml

abbrev Found := Option (List Char × List Char)

def Found.prepend (c : Char) (found : Found) : Found :=
  found.map fun (text, rest) => (c :: text, rest)

def isForbidden (c : Char) : Bool := Text.isControl c && c != '\t' && c.toNat < 0x80

def escape? : Char → Option Char
  | 'b' => some (Char.ofNat 8)
  | 't' => some '\t'
  | 'n' => some '\n'
  | 'f' => some (Char.ofNat 12)
  | 'r' => some '\r'
  | '"' => some '"'
  | '\\' => some '\\'
  | _ => none

def codedChar? (digits : List Char) : Option Char :=
  let n := baseNumber 16 digits
  if digits.all isHexDigit && n.isValidChar then some (Char.ofNat n) else none

def basicText : List Char → Found
  | [] => none
  | '"' :: rest => some ([], rest)
  | '\\' :: 'u' :: a :: b :: c :: d :: rest =>
    (codedChar? [a, b, c, d]).bind fun x => Found.prepend x (basicText rest)
  | '\\' :: 'U' :: a :: b :: c :: d :: e :: f :: g :: h :: rest =>
    (codedChar? [a, b, c, d, e, f, g, h]).bind fun x => Found.prepend x (basicText rest)
  | '\\' :: c :: rest => (escape? c).bind fun x => Found.prepend x (basicText rest)
  | c :: rest => if isForbidden c then none else Found.prepend c (basicText rest)

def literalText : List Char → Found
  | [] => none
  | '\'' :: rest => some ([], rest)
  | c :: rest => if isForbidden c then none else Found.prepend c (literalText rest)

/-- Whether three quotes stand in front, and no fourth one. -/
def closesText (quote : Char) : List Char → Bool
  | a :: b :: c :: rest =>
    a == quote && b == quote && c == quote && rest.head? != some quote
  | _ => false

def continuesLine (chars : List Char) : Bool :=
  match chars.dropWhile fun c => c == ' ' || c == '\t' with
  | '\n' :: _ | '\r' :: '\n' :: _ => true
  | _ => false

/-- A text after its three opening double quotes. `skipping` says whether blanks and line ends are
passed over, as they are behind a backslash at the end of a line. -/
def basicLines (skipping : Bool) : List Char → Found
  | [] => none
  | '\\' :: 'u' :: a :: b :: c :: d :: rest =>
    (codedChar? [a, b, c, d]).bind fun x => Found.prepend x (basicLines false rest)
  | '\\' :: 'U' :: a :: b :: c :: d :: e :: f :: g :: h :: rest =>
    (codedChar? [a, b, c, d, e, f, g, h]).bind fun x => Found.prepend x (basicLines false rest)
  | '\\' :: c :: rest =>
    if continuesLine (c :: rest) then basicLines true rest
    else (escape? c).bind fun x => Found.prepend x (basicLines false rest)
  | c :: rest =>
    if skipping && (c == ' ' || c == '\t' || c == '\n' || c == '\r') then basicLines true rest
    else if closesText '"' (c :: rest) then some ([], rest.drop 2)
    else if isForbidden c && c != '\n' && c != '\r' then none
    else Found.prepend c (basicLines false rest)

def literalLines : List Char → Found
  | [] => none
  | c :: rest =>
    if closesText '\'' (c :: rest) then some ([], rest.drop 2)
    else if isForbidden c && c != '\n' && c != '\r' then none
    else Found.prepend c (literalLines rest)

def afterLineEnd : List Char → List Char
  | '\n' :: rest | '\r' :: '\n' :: rest => rest
  | chars => chars

def lineText : List Char → Found
  | '"' :: rest => basicText rest
  | '\'' :: rest => literalText rest
  | _ => none

def anyText : List Char → Found
  | '"' :: '"' :: '"' :: rest => basicLines false (afterLineEnd rest)
  | '\'' :: '\'' :: '\'' :: rest => literalLines (afterLineEnd rest)
  | chars => lineText chars

end SchemaScaffold.Config.Toml
