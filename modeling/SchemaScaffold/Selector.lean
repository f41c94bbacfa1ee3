import SchemaScaffold.Role

/-!
# Template selection

A decision table maps a role and a stack to a template. The first row whose conditions all hold
decides, and it may decide that there is no file.
-/

namespace SchemaScaffold

abbrev TemplateId := String

/-- A row of the decision table. A condition that is left out always holds. -/
structure TemplateRule where
  role : Role
  template : Option TemplateId
  orm : Option Orm := none
  buildTool : Option BuildTool := none
  requires : Option Feature := none
  deriving DecidableEq, Repr, Inhabited

def TemplateRule.applies (rule : TemplateRule) (role : Role) (stack : Stack) : Bool :=
  rule.role == role && rule.orm.all (· == stack.orm) && rule.buildTool.all (· == stack.buildTool)
    && rule.requires.all stack.has

structure Selector where
  rules : List TemplateRule
  deriving DecidableEq, Repr, Inhabited

namespace Selector

def standardRules : List TemplateRule := [
  { role := .buildFile, template := some "gradle/build.gradle.ftl", buildTool := some .gradle },
  { role := .buildFile, template := some "maven/pom.xml.ftl" },
  { role := .appConfig, template := some "common/application.properties.ftl" },
  { role := .resultWrapper, template := some "common/Result.java.ftl" },
  { role := .resultCodeEnum, template := some "common/ResultCode.java.ftl" },
  { role := .applicationEntryPoint, template := some "mybatis-plus/Application.java.ftl",
    orm := some .mybatisPlus },
  { role := .applicationEntryPoint, template := some "mybatis/Application.java.ftl",
    orm := some .mybatis },
  { role := .applicationEntryPoint, template := some "jpa/Application.java.ftl",
    orm := some .jpa },
  { role := .applicationEntryPoint, template := some "common/Application.java.ftl" },
  { role := .apiDocConfig, template := some "common/OpenApiConfig.java.ftl",
    requires := some .apiDocs },
  { role := .apiDocConfig, template := none },
  { role := .entity, template := some "jpa/Entity.java.ftl", orm := some .jpa },
  { role := .entity, template := some "mybatis-plus/Entity.java.ftl", orm := some .mybatisPlus },
  { role := .entity, template := some "mybatis/Entity.java.ftl" },
  { role := .dataAccess, template := some "jpa/Repository.java.ftl", orm := some .jpa },
  { role := .dataAccess, template := some "mybatis-plus/Mapper.java.ftl",
    orm := some .mybatisPlus },
  { role := .dataAccess, template := some "mybatis/Mapper.java.ftl" },
  { role := .dataAccessMarkup, template := some "mybatis/Mapper.xml.ftl", orm := some .mybatis },
  { role := .dataAccessMarkup, template := none },
  { role := .serviceInterface, template := some "common/Service.java.ftl" },
  { role := .serviceImpl, template := some "jpa/ServiceImpl.java.ftl", orm := some .jpa },
  { role := .serviceImpl, template := some "mybatis-plus/ServiceImpl.java.ftl",
    orm := some .mybatisPlus },
  { role := .serviceImpl, template := some "mybatis/ServiceImpl.java.ftl" },
  { role := .controller, template := some "common/Controller.java.ftl" }]

def standard : Selector := ⟨standardRules⟩

def withRule (selector : Selector) (rule : TemplateRule) : Selector := ⟨rule :: selector.rules⟩

/-- The template of a role, or none when there is to be no file. -/
def resolve (selector : Selector) (role : Role) (stack : Stack) : Option TemplateId :=
  (selector.rules.find? (·.applies role stack)).bind (·.template)

end Selector

end SchemaScaffold
