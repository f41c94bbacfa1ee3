import SchemaScaffold.Template.Shipped.Build
import SchemaScaffold.Template.Shipped.Common
import SchemaScaffold.Template.Shipped.Jpa
import SchemaScaffold.Template.Shipped.Mybatis
import SchemaScaffold.Template.Shipped.MybatisPlus

/-!
# Shipped templates

The templates that come with the library, by name. In the modules of the templates every line is a
text of its own, and white square brackets stand in the place of braces, so that the braces of the
templates cannot be mistaken for those of the code around them.
-/

namespace SchemaScaffold.Template

def ofWrittenChar (c : Char) : Char :=
  if c == '⟦' then '\x7b' else if c == '⟧' then '\x7d' else c

def charsOfLines : List String → List Char
  | [] => []
  | [line] => line.toList.map ofWrittenChar
  | line :: rest => line.toList.map ofWrittenChar ++ '\n' :: charsOfLines rest

def ofLines (lines : List String) : String := String.ofList (charsOfLines lines)

@[simp]
theorem toList_ofLines (lines : List String) : (ofLines lines).toList = charsOfLines lines :=
  String.toList_ofList

def shipped : List (String × String) := [
  ("common/Application.java.ftl", ofLines Shipped.Common.application),
  ("common/application.properties.ftl", ofLines Shipped.Common.settings),
  ("common/Result.java.ftl", ofLines Shipped.Common.result),
  ("common/ResultCode.java.ftl", ofLines Shipped.Common.resultCode),
  ("common/OpenApiConfig.java.ftl", ofLines Shipped.Common.openApiConfig),
  ("common/Service.java.ftl", ofLines Shipped.Common.service),
  ("common/Controller.java.ftl", ofLines Shipped.Common.controller),
  ("gradle/build.gradle.ftl", ofLines Shipped.Build.gradle),
  ("maven/pom.xml.ftl", ofLines Shipped.Build.maven),
  ("mybatis/Application.java.ftl", ofLines Shipped.Mybatis.application),
  ("mybatis/Entity.java.ftl", ofLines Shipped.Mybatis.entity),
  ("mybatis/Mapper.java.ftl", ofLines Shipped.Mybatis.mapper),
  ("mybatis/Mapper.xml.ftl", ofLines Shipped.Mybatis.mapperMarkup),
  ("mybatis/ServiceImpl.java.ftl", ofLines Shipped.Mybatis.serviceImpl),
  ("mybatis-plus/Application.java.ftl", ofLines Shipped.MybatisPlus.application),
  ("mybatis-plus/Entity.java.ftl", ofLines Shipped.MybatisPlus.entity),
  ("mybatis-plus/Mapper.java.ftl", ofLines Shipped.MybatisPlus.mapper),
  ("mybatis-plus/ServiceImpl.java.ftl", ofLines Shipped.MybatisPlus.serviceImpl),
  ("jpa/Application.java.ftl", ofLines Shipped.Jpa.application),
  ("jpa/Entity.java.ftl", ofLines Shipped.Jpa.entity),
  ("jpa/Repository.java.ftl", ofLines Shipped.Jpa.repository),
  ("jpa/ServiceImpl.java.ftl", ofLines Shipped.Jpa.serviceImpl)]

end SchemaScaffold.Template
