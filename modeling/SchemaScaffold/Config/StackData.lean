import SchemaScaffold.Config.Datum
import SchemaScaffold.Error
import SchemaScaffold.Value

/-!
# Stacks from data

The settings of a stack by name. Some settings have a second, shorter or older name; a stack that
gives one setting under both is refused. What is not given keeps its default, and names that are
not known are passed over.
-/

namespace SchemaScaffold.Config

abbrev Reading := Except ConfigFault

def usable {α : Type} (key : String) : Option α → Reading α
  | some a => .ok a
  | none => .error (.unusable key)

inductive StackKey where
  | orm
  | buildTool
  | database
  | lombokAccessors
  | apiDocs
  | validation
  | pagination
  | cache
  | javaVersion
  | frameworkVersion
  deriving DecidableEq, Repr, Inhabited

namespace StackKey

def all : List StackKey :=
  [orm, buildTool, database, lombokAccessors, apiDocs, validation, pagination, cache, javaVersion,
    frameworkVersion]

def names : StackKey → List String
  | orm => ["orm_framework"]
  | buildTool => ["build_tool"]
  | database => ["database_type"]
  | lombokAccessors => ["use_lombok_style_accessors", "use_lombok"]
  | apiDocs => ["use_api_docs", "use_swagger"]
  | validation => ["use_validation"]
  | pagination => ["use_pagination"]
  | cache => ["use_cache", "use_redis"]
  | javaVersion => ["language_version"]
  | frameworkVersion => ["framework_version"]

def name (key : StackKey) : String := key.names.headD ""

def ofName? (name : String) : Option StackKey := all.find? (·.names.contains name)

end StackKey

def choice {α : Type} (conversion : Conversion) (setting : Setting)
    (ofText? : String → Option α) (key : String) (datum : Datum) : Reading α := do
  let text ← usable key (datum.toText? conversion)
  match ofText? text with
  | some a => return a
  | none => throw (.unsupported setting text)

end SchemaScaffold.Config

namespace SchemaScaffold

open Config

namespace Stack

def set (conversion : Conversion) (stack : Stack) (key : StackKey) (datum : Datum) :
    Reading Stack := do
  let flag : Reading Bool := usable key.name (datum.toBool? conversion)
  match key with
  | .orm => return { stack with orm := ← choice conversion .orm Orm.ofText? key.name datum }
  | .buildTool =>
    return { stack with
      buildTool := ← choice conversion .buildTool BuildTool.ofText? key.name datum }
  | .database =>
    return { stack with
      database := ← choice conversion .database Database.ofText? key.name datum }
  | .lombokAccessors => return { stack with lombokAccessors := ← flag }
  | .apiDocs => return { stack with apiDocs := ← flag }
  | .validation => return { stack with validation := ← flag }
  | .pagination => return { stack with pagination := ← flag }
  | .cache => return { stack with cache := ← flag }
  | .javaVersion =>
    return { stack with
      javaVersion := ← choice conversion .javaVersion JavaVersion.ofText? key.name datum }
  | .frameworkVersion =>
    return { stack with
      frameworkVersion := ← usable key.name (datum.toText? conversion) }

/-- Gives settings new values one after the other. `seen` holds those that have theirs. -/
def setAll (conversion : Conversion) (seen : List StackKey) (stack : Stack) :
    List (String × Datum) → Reading Stack
  | [] => .ok stack
  | (name, datum) :: rest =>
    match StackKey.ofName? name with
    | none => setAll conversion seen stack rest
    | some key =>
      if seen.contains key then .error (.unusable name)
      else do setAll conversion (key :: seen) (← stack.set conversion key datum) rest

/-- The stack that data describe: settings by name, or the first few of them in a list. -/
def ofDatum (conversion : Conversion) : Datum → Reading Stack
  | .table fields => setAll conversion [] {} (inOrder fields)
  | .list items =>
    if items.length ≤ StackKey.all.length then
      setAll conversion [] {} ((StackKey.all.map StackKey.name).zip items)
    else .error (.unusable "tech_stack")
  | _ => .error (.unusable "tech_stack")

def settingValue (stack : Stack) : StackKey → Value
  | .orm => .text stack.orm.label
  | .buildTool => .text stack.buildTool.label
  | .database => .text stack.database.label
  | .lombokAccessors => .bool stack.lombokAccessors
  | .apiDocs => .bool stack.apiDocs
  | .validation => .bool stack.validation
  | .pagination => .bool stack.pagination
  | .cache => .bool stack.cache
  | .javaVersion => .text stack.javaVersion.label
  | .frameworkVersion => .text stack.frameworkVersion

def toValue (stack : Stack) : Value :=
  .record (StackKey.all.map fun key => (key.name, stack.settingValue key))

end Stack

end SchemaScaffold
