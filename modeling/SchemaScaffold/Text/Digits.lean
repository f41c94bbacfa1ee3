namespace SchemaScaffold.Text

def digitValue (c : Char) : Nat := c.toNat - '0'.toNat

def digitsNumber (digits : List Char) : Nat :=
  digits.foldl (fun n c => 10 * n + digitValue c) 0

def digits? (chars : List Char) : Option Nat :=
  if chars.isEmpty || !chars.all Char.isDigit then none else some (digitsNumber chars)

def natural? : List Char → Option Nat
  | '+' :: rest => digits? rest
  | chars => digits? chars

end SchemaScaffold.Text
