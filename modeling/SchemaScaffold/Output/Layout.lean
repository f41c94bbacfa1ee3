import SchemaScaffold.Naming
import SchemaScaffold.Path

namespace SchemaScaffold.Layout

def sourceRoot : String := "src/main/java"

def resourceRoot : String := "src/main/resources"

inductive Pattern where
  | exact (name : String)
  | ending (suffix : String)

def Pattern.covers (name : String) : Pattern → Bool
  | exact other => name == other
  | ending suffix => suffix.toList.isSuffixOf name.toList

inductive Location where
  | top
  | directory (path : String)
  | package (path : String)
  deriving DecidableEq, Repr, Inhabited

def rules : List (Pattern × Location) := [
  (.exact "pom.xml", .top),
  (.exact "build.gradle", .top),
  (.exact "application.properties", .directory resourceRoot),
  (.exact "Result.java", .package "common/api"),
  (.exact "ResultCode.java", .package "common/api"),
  (.exact "OpenApiConfig.java", .package "config"),
  (.ending "Mapper.xml", .directory (resourceRoot ++ "/mapper")),
  (.ending "ServiceImpl.java", .package "service/impl"),
  (.ending "Repository.java", .package "repository"),
  (.ending "Mapper.java", .package "mapper"),
  (.ending "Controller.java", .package "controller"),
  (.ending "Service.java", .package "service"),
  (.ending "Application.java", .package "")]

/-- Where a file of this name stands. A name that no rule covers is that of an entity. -/
def location (fileName : String) : Location :=
  match rules.find? (·.1.covers fileName) with
  | some rule => rule.2
  | none => .package "entity"

def directory (packageName : String) : Location → Path
  | .top => ⟨""⟩
  | .directory path => ⟨path⟩
  | .package path =>
    let base := (Path.mk sourceRoot).join ⟨Naming.packageDirectory packageName⟩
    if path.isEmpty then base else base.join ⟨path⟩

def resolve (fileName packageName : String) : Path :=
  (directory packageName (location fileName)).join ⟨fileName⟩

end SchemaScaffold.Layout
