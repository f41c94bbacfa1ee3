import SchemaScaffold.Config.Toml.Text

/-!
# TOML

The data that a text in TOML describes. A line gives a key its value, or opens the table that the
following lines are about. Every key has one value, and every table is opened once.
-/

namespace SchemaScaffold.Config.Toml

inductive Origin where
  | opened
  | implied
  | dotted
  deriving DecidableEq, Repr, Inhabited

inductive Entry where
  | value (datum : Datum)
  | table (origin : Origin) (fields : List (String × Entry))
  | tables (items : List (List (String × Entry)))
  deriving Inhabited

abbrev Fields := List (String × Entry)

def putField (key : String) (entry : Entry) : Fields → Fields
  | [] => [(key, entry)]
  | field :: rest =>
    if field.1 = key then (key, entry) :: rest else field :: putField key entry rest

def setKey (datum : Datum) : List String → Fields → Option Fields
  | [], _ => none
  | [key], fields =>
    match fields.lookup key with
    | none => some (putField key (.value datum) fields)
    | some _ => none
  | key :: rest, fields =>
    match fields.lookup key with
    | none => (setKey datum rest []).map fun inner => putField key (.table .dotted inner) fields
    | some (.table .dotted inner) =>
      (setKey datum rest inner).map fun inner => putField key (.table .dotted inner) fields
    | some _ => none

def within (change : Fields → Option Fields) : List String → Fields → Option Fields
  | [], fields => change fields
  | key :: rest, fields =>
    match fields.lookup key with
    | none => (within change rest []).map fun inner => putField key (.table .implied inner) fields
    | some (.table origin inner) =>
      (within change rest inner).map fun inner => putField key (.table origin inner) fields
    | some (.tables (last :: earlier)) =>
      (within change rest last).map fun last => putField key (.tables (last :: earlier)) fields
    | some _ => none

def openTable (key : String) (fields : Fields) : Option Fields :=
  match fields.lookup key with
  | none => some (putField key (.table .opened []) fields)
  | some (.table .implied inner) => some (putField key (.table .opened inner) fields)
  | some _ => none

def openItem (key : String) (fields : Fields) : Option Fields :=
  match fields.lookup key with
  | none => some (putField key (.tables [[]]) fields)
  | some (.tables items) => some (putField key (.tables ([] :: items)) fields)
  | some _ => none

mutual

def Entry.toDatum : Entry → Datum
  | .value datum => datum
  | .table _ fields => .table (fieldsToData fields)
  | .tables items => .list (itemsToData items).reverse

def fieldsToData : Fields → List (String × Datum)
  | [] => []
  | (key, entry) :: rest => (key, entry.toDatum) :: fieldsToData rest

def itemsToData : List Fields → List Datum
  | [] => []
  | fields :: rest => .table (fieldsToData fields) :: itemsToData rest

end

/-! ### Reading -/

def skipBlanks (chars : List Char) : List Char := chars.dropWhile fun c => c == ' ' || c == '\t'

def skipComment : List Char → Option (List Char)
  | '#' :: rest =>
    let comment := rest.takeWhile fun c => c != '\n' && c != '\r'
    if comment.any isForbidden then none
    else some (rest.dropWhile fun c => c != '\n' && c != '\r')
  | chars => some chars

def endLine (chars : List Char) : Option (List Char) :=
  match skipComment (skipBlanks chars) with
  | some [] => some []
  | some ('\n' :: rest) | some ('\r' :: '\n' :: rest) => some rest
  | _ => none

def skipLines : Nat → List Char → List Char
  | 0, chars => chars
  | fuel + 1, chars =>
    match skipBlanks chars with
    | [] => []
    | rest =>
      match endLine rest with
      | some after => skipLines fuel after
      | none => rest

def isBareChar (c : Char) : Bool := c.isAlphanum || c == '_' || c == '-'

def simpleKey (chars : List Char) : Option (String × List Char) :=
  let bare := chars.takeWhile isBareChar
  if bare.isEmpty then (lineText chars).map fun (key, rest) => (String.ofList key, rest)
  else some (String.ofList bare, chars.dropWhile isBareChar)

def dottedKey : Nat → List Char → Option (List String × List Char)
  | 0, _ => none
  | fuel + 1, chars =>
    match simpleKey (skipBlanks chars) with
    | none => none
    | some (key, rest) =>
      match skipBlanks rest with
      | '.' :: rest => (dottedKey fuel rest).map fun (others, rest) => (key :: others, rest)
      | rest => some ([key], rest)

def keyBeforeValue (chars : List Char) : Option (List String × List Char) :=
  match dottedKey (chars.length + 1) chars with
  | some (key, '=' :: rest) => some (key, skipBlanks rest)
  | _ => none

mutual

def readValue : Nat → List Char → Option (Datum × List Char)
  | 0, _ => none
  | fuel + 1, chars =>
    match chars with
    | '[' :: rest =>
      (readItems fuel (skipLines rest.length rest)).map fun (items, rest) => (.list items, rest)
    | '\x7b' :: rest =>
      match skipBlanks rest with
      | '\x7d' :: rest => some (.table [], rest)
      | rest =>
        (readPairs fuel [] rest).map fun (fields, rest) => (.table (fieldsToData fields), rest)
    | '"' :: _ | '\'' :: _ =>
      (anyText chars).map fun (text, rest) => (.text (String.ofList text), rest)
    | _ =>
      let (spelled, rest) := spanScalar chars
      (scalar? spelled).map fun datum => (datum, rest)

def readItems : Nat → List Char → Option (List Datum × List Char)
  | 0, _ => none
  | fuel + 1, chars =>
    match chars with
    | ']' :: rest => some ([], rest)
    | _ =>
      match readValue fuel chars with
      | none => none
      | some (item, rest) =>
        match skipLines rest.length rest with
        | ']' :: rest => some ([item], rest)
        | ',' :: rest =>
          (readItems fuel (skipLines rest.length rest)).map fun (items, rest) =>
            (item :: items, rest)
        | _ => none

def readPairs : Nat → Fields → List Char → Option (Fields × List Char)
  | 0, _, _ => none
  | fuel + 1, fields, chars =>
    match keyBeforeValue chars with
    | none => none
    | some (key, rest) =>
      match readValue fuel rest with
      | none => none
      | some (datum, rest) =>
        match setKey datum key fields with
        | none => none
        | some fields =>
          match skipBlanks rest with
          | '\x7d' :: rest => some (fields, rest)
          | ',' :: rest => readPairs fuel fields rest
          | _ => none

end

/-- A line that opens a table: its keys, whether it is an item of a list, and what follows. -/
def readHeader (chars : List Char) : Option (List String × Bool × List Char) :=
  match chars with
  | '[' :: '[' :: rest =>
    match dottedKey (rest.length + 1) rest with
    | some (keys, ']' :: ']' :: rest) => some (keys, true, rest)
    | _ => none
  | '[' :: rest =>
    match dottedKey (rest.length + 1) rest with
    | some (keys, ']' :: rest) => some (keys, false, rest)
    | _ => none
  | _ => none

def readLines : Nat → List String → Fields → List Char → Option Fields
  | 0, _, _, _ => none
  | fuel + 1, current, fields, chars =>
    match skipLines chars.length chars with
    | [] => some fields
    | '[' :: rest => do
      let (keys, isItem, rest) ← readHeader ('[' :: rest)
      let last ← keys.getLast?
      let fields ← within (if isItem then openItem last else openTable last) keys.dropLast fields
      readLines fuel keys fields (← endLine rest)
    | rest => do
      let (key, rest) ← keyBeforeValue rest
      let (datum, rest) ← readValue (rest.length + 1) rest
      let fields ← within (setKey datum key) current fields
      readLines fuel current fields (← endLine rest)

def skipByteOrderMark : List Char → List Char
  | c :: rest => if c.toNat == 0xFEFF then rest else c :: rest
  | [] => []

/-- The fields of the data that a text describes. -/
def parse? (text : String) : Option (List (String × Datum)) :=
  let chars := skipByteOrderMark text.toList
  (readLines (chars.length + 1) [] [] chars).map fieldsToData

end SchemaScaffold.Config.Toml
