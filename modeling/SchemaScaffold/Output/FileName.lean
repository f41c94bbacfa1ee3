import SchemaScaffold.Validation

namespace SchemaScaffold.FileName

def illegalChars : List Char := ['\\', '/', ':', '*', '?', '"', '<', '>', '|']

def deviceNames : List String :=
  ["CON", "PRN", "AUX", "NUL", "COM1", "COM2", "COM3", "COM4", "COM5", "COM6", "COM7", "COM8",
    "COM9", "LPT1", "LPT2", "LPT3", "LPT4", "LPT5", "LPT6", "LPT7", "LPT8", "LPT9"]

def replaceIllegal (c : Char) : Char :=
  if illegalChars.contains c || Text.isControl c then '_' else c

def collapseDots : List Char → List Char
  | '.' :: '.' :: rest => '_' :: collapseDots rest
  | c :: rest => c :: collapseDots rest
  | [] => []

def isDevice (name : List Char) : Bool :=
  let upper := (Text.upper (String.ofList name)).toList
  deviceNames.any fun device =>
    upper == device.toList || (device.toList ++ ['.']).isPrefixOf upper

def avoidDevice (name : List Char) : List Char := if isDevice name then '_' :: name else name

def hexDigits (n : Nat) : String := String.ofList (Nat.toDigits 16 n)

def escapeBlank (c : Char) : String :=
  if c == ' ' then " " else "\\u" ++ "\x7b" ++ hexDigits c.toNat ++ "\x7d"

def clean (name : List Char) : List Char :=
  Text.trimList (collapseDots (name.map replaceIllegal))

/-- The safe form of a name. There is none for an empty name, nor for one of blanks only. -/
def sanitize (name : String) : Result String := do
  Validation.require (!name.isEmpty) .emptyFileName
  let cleaned := clean name.toList
  Validation.require (!cleaned.isEmpty)
    (.blankFileName (String.join (name.toList.map escapeBlank)))
  return String.ofList ((avoidDevice cleaned).take Limits.maxFileNameLength)

end SchemaScaffold.FileName
