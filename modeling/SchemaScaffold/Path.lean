import SchemaScaffold.Text.Fields

/-!
# Paths

A path is kept as it is written: doubled and trailing slashes stay. Joining follows the text, and
the names between the slashes are read off when a path is resolved.
-/

namespace SchemaScaffold

structure Path where
  text : String
  deriving DecidableEq, Repr, Inhabited

namespace Path

def isAbsolute (path : Path) : Bool :=
  match path.text.toList with
  | c :: _ => c == '/'
  | [] => false

def isEmpty (path : Path) : Bool := path.text.isEmpty

def endsInSlash (s : String) : Bool :=
  match s.toList.getLast? with
  | some c => c == '/'
  | none => false

/-- A path below another one. An absolute path replaces the one before it; otherwise a slash is put
between the two where one is needed, also in front of an empty path. -/
def join (base path : Path) : Path :=
  if path.isAbsolute || base.isEmpty then path
  else if endsInSlash base.text then ⟨base.text ++ path.text⟩
  else ⟨base.text ++ "/" ++ path.text⟩

def names (path : Path) : List String :=
  (Text.fieldsOf '/' path.text).filter fun name => !name.isEmpty

/-- The names of a path without those that stay in place, except for one in front. Two paths with
the same names, both absolute or both not, are the same place when nothing else is known. -/
def components (path : Path) : Bool × List String :=
  (path.isAbsolute,
    match path.names with
    | first :: rest =>
      if first == "." && !path.isAbsolute then first :: rest.filter (· != ".")
      else (first :: rest).filter (· != ".")
    | [] => [])

end Path

/-- An absolute path without `.` and `..`: the names from the root down. -/
structure AbsPath where
  names : List String
  deriving DecidableEq, Repr, Inhabited

namespace AbsPath

def root : AbsPath := ⟨[]⟩

def parent (path : AbsPath) : AbsPath := ⟨path.names.dropLast⟩

def child (path : AbsPath) (name : String) : AbsPath := ⟨path.names ++ [name]⟩

def step (path : AbsPath) (name : String) : AbsPath :=
  if name == "." then path else if name == ".." then path.parent else path.child name

/-- The place that a path leads to from a directory, links left aside. -/
def follow (base : AbsPath) (path : Path) : AbsPath :=
  path.names.foldl step (if path.isAbsolute then root else base)

def within (path directory : AbsPath) : Bool := directory.names.isPrefixOf path.names

def toString (path : AbsPath) : String := "/" ++ "/".intercalate path.names

def toPath (path : AbsPath) : Path := ⟨path.toString⟩

end AbsPath

end SchemaScaffold
