import SchemaScaffold.Stack

namespace SchemaScaffold

inductive Role where
  | buildFile
  | appConfig
  | resultWrapper
  | resultCodeEnum
  | applicationEntryPoint
  | apiDocConfig
  | entity
  | dataAccess
  | dataAccessMarkup
  | serviceInterface
  | serviceImpl
  | controller
  deriving DecidableEq, Repr, Inhabited

namespace Role

def ofProject : List Role :=
  [buildFile, appConfig, resultWrapper, resultCodeEnum, applicationEntryPoint, apiDocConfig]

def ofTable : List Role :=
  [entity, dataAccess, dataAccessMarkup, serviceInterface, serviceImpl, controller]

def all : List Role := ofProject ++ ofTable

def label : Role → String
  | buildFile => "BuildFile"
  | appConfig => "AppConfig"
  | resultWrapper => "ResultWrapper"
  | resultCodeEnum => "ResultCodeEnum"
  | applicationEntryPoint => "ApplicationEntryPoint"
  | apiDocConfig => "ApiDocConfig"
  | entity => "Entity"
  | dataAccess => "DataAccess"
  | dataAccessMarkup => "DataAccessMarkup"
  | serviceInterface => "ServiceInterface"
  | serviceImpl => "ServiceImpl"
  | controller => "Controller"

def ofText? (text : String) : Option Role := all.find? (·.label == text)

/-- The name of the file that plays the role, given the class name of its table and the class name
of the application. -/
def fileName (role : Role) (className appName : String) (stack : Stack) : String :=
  match role with
  | buildFile =>
    match stack.buildTool with
    | .gradle => "build.gradle"
    | .maven => "pom.xml"
  | appConfig => "application.properties"
  | resultWrapper => "Result.java"
  | resultCodeEnum => "ResultCode.java"
  | applicationEntryPoint => appName ++ "Application.java"
  | apiDocConfig => "OpenApiConfig.java"
  | entity => className ++ ".java"
  | dataAccess =>
    match stack.orm with
    | .jpa => className ++ "Repository.java"
    | .mybatis | .mybatisPlus => className ++ "Mapper.java"
  | dataAccessMarkup => className ++ "Mapper.xml"
  | serviceInterface => "I" ++ className ++ "Service.java"
  | serviceImpl => className ++ "ServiceImpl.java"
  | controller => className ++ "Controller.java"

end Role

structure Origin where
  role : Role
  table : Option String
  deriving DecidableEq, Repr, Inhabited

def Origin.describe (origin : Origin) : String :=
  match origin.table with
  | some table => origin.role.label ++ " of table " ++ table
  | none => origin.role.label

end SchemaScaffold
