import SchemaScaffold.Text.Blank
import SchemaScaffold.Text.CaseMap

namespace SchemaScaffold

inductive Dialect where
  | mysql
  | postgresql
  deriving DecidableEq, Repr, Inhabited

namespace Dialect

def all : List Dialect := [mysql, postgresql]

def name : Dialect → String
  | mysql => "mysql"
  | postgresql => "postgresql"

def supported : List String := all.map name

/-- The name that a request comes down to: trimmed and in lower case, and the default name when
nothing was asked for. -/
def requestedName (request : Option String) : String :=
  let asked := (request.map Text.trim).getD ""
  Text.lower (if asked.isEmpty then mysql.name else asked)

def ofRequest? (request : Option String) : Option Dialect :=
  all.find? (·.name == requestedName request)

end Dialect

end SchemaScaffold
