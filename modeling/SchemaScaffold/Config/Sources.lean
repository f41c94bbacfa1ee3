import SchemaScaffold.Config.Settings
import SchemaScaffold.Config.Toml
import SchemaScaffold.Disk

/-!
# Where settings come from

A file may give settings, and variables of the environment take precedence over it. Both are put
into one tree of data first, key by key, and the settings are read off that tree.
-/

namespace SchemaScaffold.Config

def putDatum (key : String) (datum : Datum) : List (String × Datum) → List (String × Datum)
  | [] => [(key, datum)]
  | field :: rest =>
    if field.1 = key then (key, datum) :: rest else field :: putDatum key datum rest

def Datum.fields : Datum → List (String × Datum)
  | table fields => fields
  | _ => []

mutual

/-- Data on top of others: tables are merged, anything else replaces what was there. -/
def merge (old : Datum) : Datum → Datum
  | .table fields => .table (mergeFields old.fields fields)
  | new => new

def mergeFields (old : List (String × Datum)) : List (String × Datum) → List (String × Datum)
  | [] => old
  | (key, datum) :: rest =>
    mergeFields (putDatum key (merge ((old.lookup key).getD .null) datum) old) rest

end

/-- Puts data where keys lead to, on top of what is there. What is no table on the way is replaced
by one. -/
def mergeAt (datum : Datum) : List String → Datum → Datum
  | [], old => merge old datum
  | key :: rest, old =>
    let fields := old.fields
    .table (putDatum key (mergeAt datum rest ((fields.lookup key).getD .null)) fields)

/-- The keys that a name leads through: those between its dots, or the name itself where they are
not plain. -/
def keysOf (name : String) : List String :=
  let keys := Text.fields '.' name.toList
  if keys.all fun key => !key.isEmpty && key.all Toml.isBareChar then keys.map String.ofList
  else [name]

def addAll (tree : Datum) (fields : List (String × Datum)) : Datum :=
  fields.foldl (fun tree field => mergeAt field.2 (keysOf field.1) tree) tree

def variableStart : List Char := "s2s_codegen_".toList

def dotted : List Char → List Char
  | '_' :: '_' :: rest => '.' :: dotted rest
  | c :: rest => c :: dotted rest
  | [] => []

def settingName? (variableName : String) : Option String :=
  let name := (Text.lower variableName).toList
  if variableStart.isPrefixOf name then
    some (String.ofList (dotted (name.drop variableStart.length)))
  else none

def variableData (environment : List (String × String)) : List (String × Datum) :=
  environment.filterMap fun (name, value) =>
    (settingName? name).map fun name => (name, .text value)

def settingsOf (file : List (String × Datum)) (environment : List (String × String)) :
    Reading Settings :=
  Settings.ofFields .lenient (addAll (addAll (.table []) file) (variableData environment)).fields

def toResult {α : Type} : Reading α → Result α
  | .ok a => .ok a
  | .error fault => .error (.config fault)

def defaultFile : Path := ⟨"s2s-codegen"⟩

def fileExtension : String := ".toml"

def dataOf (disk : Disk) (start : AbsPath) (path : Path) : Reading (List (String × Datum)) :=
  match disk.readText start path with
  | .error _ => .error (.malformed path.text)
  | .ok text =>
    match Toml.parse? text with
    | some fields => .ok fields
    | none => .error (.malformed path.text)

def isFile (disk : Disk) (start : AbsPath) (path : Path) : Bool :=
  match disk.find start path with
  | .ok (.file _) => true
  | _ => false

def hasExtension (path : Path) : Bool := fileExtension.toList.isSuffixOf path.text.toList

/-- The file that a name stands for: the file of this name, or else that with the extension added.
A file of the name itself must have the extension. -/
def locate? (disk : Disk) (start : AbsPath) (path : Path) : Option Path :=
  if isFile disk start path then if hasExtension path then some path else none
  else
    let extended : Path := ⟨path.text ++ fileExtension⟩
    if isFile disk start extended then some extended else none

/-- The settings of a run: from the file that is named, or from the usual one if it is there, and
from the environment. -/
def load (disk : Disk) (start : AbsPath) (file : Option Path)
    (environment : List (String × String)) : Result Settings := do
  let fields ← match locate? disk start (file.getD defaultFile), file with
    | some path, _ => toResult (dataOf disk start path)
    | none, some path => throw (.config (.noFile path.text))
    | none, none => pure []
  toResult (settingsOf fields environment)

/-- The settings of a file alone, every value being of the very kind that its setting needs. -/
def ofFile (disk : Disk) (start : AbsPath) (path : Path) : Result Settings :=
  match disk.readText start path with
  | .error fault => .error (.file fault)
  | .ok text =>
    match Toml.parse? text with
    | some fields => toResult (Settings.ofFields .exact fields)
    | none => .error (.config (.malformed path.text))

end SchemaScaffold.Config
