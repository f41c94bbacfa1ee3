import SchemaScaffold.Value

namespace SchemaScaffold.Value

def hexDigit (n : Nat) : Char := if n < 10 then Char.ofNat (48 + n) else Char.ofNat (87 + n)

def jsonChar (c : Char) : List Char :=
  if c == '"' then ['\\', '"']
  else if c == '\\' then ['\\', '\\']
  else if c == '\n' then ['\\', 'n']
  else if c == '\r' then ['\\', 'r']
  else if c == '\t' then ['\\', 't']
  else if c.toNat == 8 then ['\\', 'b']
  else if c.toNat == 12 then ['\\', 'f']
  else if c.toNat < 0x20 then
    ['\\', 'u', '0', '0', hexDigit (c.toNat / 16), hexDigit (c.toNat % 16)]
  else [c]

def jsonText (s : String) : String :=
  String.ofList ('"' :: s.toList.flatMap jsonChar ++ ['"'])

def indentation (depth : Nat) : String := String.ofList (List.replicate (2 * depth) ' ')

def jsonBlock (depth : Nat) (left right : String) (entries : List String) : String :=
  if entries.isEmpty then left ++ right
  else
    let lines := entries.map fun entry => indentation (depth + 1) ++ entry
    left ++ "\n" ++ ",\n".intercalate lines ++ "\n" ++ indentation depth ++ right

mutual

def jsonAt (depth : Nat) : Value → String
  | null => "null"
  | bool b => if b then "true" else "false"
  | number n => toString n
  | text s => jsonText s
  | list items => jsonBlock depth "[" "]" (jsonItems (depth + 1) items)
  | record fields => jsonBlock depth "\x7b" "\x7d" (jsonFields (depth + 1) fields)

def jsonItems (depth : Nat) : List Value → List String
  | [] => []
  | item :: rest => jsonAt depth item :: jsonItems depth rest

def jsonFields (depth : Nat) : List (String × Value) → List String
  | [] => []
  | (key, value) :: rest => (jsonText key ++ ": " ++ jsonAt depth value) :: jsonFields depth rest

end

def toJson (value : Value) : String := jsonAt 0 value

end SchemaScaffold.Value
