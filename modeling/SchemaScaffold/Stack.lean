import SchemaScaffold.Text.Blank
import SchemaScaffold.Text.CaseMap

namespace SchemaScaffold

inductive Orm where
  | mybatis
  | mybatisPlus
  | jpa
  deriving DecidableEq, Repr, Inhabited

inductive BuildTool where
  | maven
  | gradle
  deriving DecidableEq, Repr, Inhabited

inductive Database where
  | mysql
  | postgresql
  | oracle
  deriving DecidableEq, Repr, Inhabited

inductive JavaVersion where
  | java8
  | java11
  | java17
  | java21
  deriving DecidableEq, Repr, Inhabited

inductive Setting where
  | orm
  | buildTool
  | database
  | javaVersion
  deriving DecidableEq, Repr, Inhabited

def Orm.label : Orm → String
  | mybatis => "mybatis"
  | mybatisPlus => "mybatis-plus"
  | jpa => "jpa"

def BuildTool.label : BuildTool → String
  | maven => "maven"
  | gradle => "gradle"

def Database.label : Database → String
  | mysql => "mysql"
  | postgresql => "postgresql"
  | oracle => "oracle"

def JavaVersion.label : JavaVersion → String
  | java8 => "8"
  | java11 => "11"
  | java17 => "17"
  | java21 => "21"

def Orm.all : List Orm := [mybatis, mybatisPlus, jpa]

def BuildTool.all : List BuildTool := [maven, gradle]

def Database.all : List Database := [mysql, postgresql, oracle]

def JavaVersion.all : List JavaVersion := [java8, java11, java17, java21]

namespace Setting

def label : Setting → String
  | orm => "ORM framework"
  | buildTool => "build tool"
  | database => "database type"
  | javaVersion => "Java version"

def supported : Setting → List String
  | orm => Orm.all.map Orm.label
  | buildTool => BuildTool.all.map BuildTool.label
  | database => Database.all.map Database.label
  | javaVersion => JavaVersion.all.map JavaVersion.label

end Setting

/-- The value among `all` that a text spells, blanks around it and the case of its letters left
aside. -/
def ofSpelling? {α : Type} (all : List α) (label : α → String) (text : String) : Option α :=
  let spelling := Text.lower (Text.trim text)
  all.find? (label · == spelling)

def Orm.ofText? (text : String) : Option Orm := ofSpelling? all label text

def BuildTool.ofText? (text : String) : Option BuildTool := ofSpelling? all label text

def Database.ofText? (text : String) : Option Database := ofSpelling? all label text

def JavaVersion.ofText? (text : String) : Option JavaVersion := ofSpelling? all label text

inductive Feature where
  | lombokAccessors
  | apiDocs
  | validation
  | pagination
  | cache
  deriving DecidableEq, Repr, Inhabited

namespace Feature

def all : List Feature := [lombokAccessors, apiDocs, validation, pagination, cache]

def label : Feature → String
  | lombokAccessors => "LombokAccessors"
  | apiDocs => "ApiDocs"
  | validation => "Validation"
  | pagination => "Pagination"
  | cache => "Cache"

end Feature

structure Stack where
  orm : Orm := .mybatis
  buildTool : BuildTool := .maven
  database : Database := .mysql
  lombokAccessors : Bool := true
  apiDocs : Bool := false
  validation : Bool := true
  pagination : Bool := false
  cache : Bool := false
  javaVersion : JavaVersion := .java17
  frameworkVersion : String := "3.2.0"
  deriving DecidableEq, Repr, Inhabited

namespace Stack

def has (stack : Stack) : Feature → Bool
  | .lombokAccessors => stack.lombokAccessors
  | .apiDocs => stack.apiDocs
  | .validation => stack.validation
  | .pagination => stack.pagination
  | .cache => stack.cache

end Stack

end SchemaScaffold
