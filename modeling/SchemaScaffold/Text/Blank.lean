namespace SchemaScaffold.Text

/-- A character with the Unicode property `White_Space`. -/
def isBlank (c : Char) : Bool :=
  let n := c.toNat
  (0x09 ≤ n && n ≤ 0x0D) || n == 0x20 || n == 0x85 || n == 0xA0 || n == 0x1680
    || (0x2000 ≤ n && n ≤ 0x200A) || n == 0x2028 || n == 0x2029 || n == 0x202F || n == 0x205F
    || n == 0x3000

/-- A control character (general category `Cc`). -/
def isControl (c : Char) : Bool :=
  c.toNat ≤ 0x1F || (0x7F ≤ c.toNat && c.toNat ≤ 0x9F)

def trimStart (chars : List Char) : List Char := chars.dropWhile isBlank

def trimEnd (chars : List Char) : List Char := (chars.reverse.dropWhile isBlank).reverse

def trimList (chars : List Char) : List Char := trimEnd (trimStart chars)

def trim (s : String) : String := String.ofList (trimList s.toList)

def isBlankText (s : String) : Bool := s.all isBlank

theorem isBlankText_eq (s : String) : isBlankText s = s.toList.all isBlank := String.all_bool_eq

def runs (keep : Char → Bool) : List Char → List (List Char)
  | [] => []
  | c :: rest =>
    if keep c then
      match rest, runs keep rest with
      | d :: _, run :: others => if keep d then (c :: run) :: others else [c] :: run :: others
      | _, others => [c] :: others
    else runs keep rest

def words (chars : List Char) : List (List Char) := runs (fun c => !isBlank c) chars

end SchemaScaffold.Text
