import SchemaScaffold.Proofs.Form.CommentFlow
import SchemaScaffold.Proofs.Form.ImportedNames

namespace SchemaScaffold

open Form

/-! ### The headers of the shipped templates -/

def entityImport : HeaderItem := .own "entity" "" ""

def entityHeader (orm : Orm) : Header where
  folder := "entity"
  front := ""
  back := ""
  items := [.gap, .recorded, .optional .lombokAccessors [("lombok", "Data")]]
    ++ (match orm with
      | .mybatis => []
      | .mybatisPlus => [.library "com.baomidou.mybatisplus.annotation" "IdType",
        .library "com.baomidou.mybatisplus.annotation" "TableId",
        .library "com.baomidou.mybatisplus.annotation" "TableName"]
      | .jpa => [.library "jakarta.persistence" "Column", .library "jakarta.persistence" "Entity",
        .library "jakarta.persistence" "GeneratedValue",
        .library "jakarta.persistence" "GenerationType",
        .library "jakarta.persistence" "Id", .library "jakarta.persistence" "Table"])
    ++ [.gap]

def dataAccessHeader : Orm → Header
  | .mybatis => {
      folder := "mapper", front := "", back := "Mapper"
      items := [.gap, .library "java.util" "List", .gap,
        .library "org.apache.ibatis.annotations" "Mapper",
        .library "org.apache.ibatis.annotations" "Param", .gap, entityImport, .gap] }
  | .mybatisPlus => {
      folder := "mapper", front := "", back := "Mapper"
      items := [.gap, .library "com.baomidou.mybatisplus.core.mapper" "BaseMapper",
        .library "org.apache.ibatis.annotations" "Mapper", .gap, entityImport, .gap] }
  | .jpa => {
      folder := "repository", front := "", back := "Repository"
      items := [.gap, .library "org.springframework.data.jpa.repository" "JpaRepository",
        .library "org.springframework.stereotype" "Repository", .gap, entityImport, .gap] }

def serviceHeader : Header where
  folder := "service"
  front := "I"
  back := "Service"
  items := [.gap, .library "java.util" "List", .gap, entityImport, .gap]

def serviceImplHeader (orm : Orm) : Header where
  folder := "service.impl"
  front := ""
  back := "ServiceImpl"
  items := [.gap, .library "java.util" "List", .gap,
      .library "org.springframework.stereotype" "Service"]
    ++ (match orm with
      | .mybatis => []
      | .mybatisPlus =>
        [.optional .pagination [("com.baomidou.mybatisplus.extension.plugins.pagination", "Page")]]
      | .jpa => [.optional .pagination [("org.springframework.data.domain", "PageRequest")]])
    ++ [.optional .cache [("org.springframework.cache.annotation", "CacheEvict"),
        ("org.springframework.cache.annotation", "Cacheable")], .gap, entityImport,
      (match orm with
        | .mybatis | .mybatisPlus => .own "mapper" "" "Mapper"
        | .jpa => .own "repository" "" "Repository"),
      .own "service" "I" "Service", .gap]

def controllerHeader : Header where
  folder := "controller"
  front := ""
  back := "Controller"
  items := [.gap, .library "java.util" "List", .gap,
    .library "org.springframework.web.bind.annotation" "*",
    .optional .validation [("jakarta.validation", "Valid")],
    .optional .apiDocs [("io.swagger.v3.oas.annotations", "Operation"),
      ("io.swagger.v3.oas.annotations.tags", "Tag")], .gap,
    .shared "common.api" "Result", .shared "common.api" "ResultCode", entityImport,
    .own "service" "I" "Service", .gap]

def headerFor (orm : Orm) : Role → Option Header
  | .entity => some (entityHeader orm)
  | .dataAccess => some (dataAccessHeader orm)
  | .serviceInterface => some serviceHeader
  | .serviceImpl => some (serviceImplHeader orm)
  | .controller => some controllerHeader
  | _ => none

/-! ### Uses of the instance name -/

/-- What a file uses the instance name of its table for. -/
inductive AliasUse where
  | basePath
  | cacheName
  deriving DecidableEq

def aliasUse : Role → Option AliasUse
  | .controller => some .basePath
  | .serviceImpl => some .cacheName
  | _ => none

def HasBasePath (content path : String) : Prop :=
  ("@RequestMapping(\"" ++ path ++ "\")").toList <:+: content.toList

def CachesUnder (content name : String) : Prop :=
  ("@Cacheable(value = \"" ++ name ++ "\"").toList <:+: content.toList

namespace AliasUse

def opens : AliasUse → List Piece → Bool
  | basePath, .plain before :: .print (.data .instanceName) :: .plain behind :: _ =>
    "@RequestMapping(\"/api/".toList.isSuffixOf before && "\")".toList.isPrefixOf behind
  | cacheName, .branch (.data (.flag .cache))
      (.plain before :: .print (.data .instanceName) :: .plain behind :: _) [] :: _ =>
    "@Cacheable(value = \"".toList.isSuffixOf before && "\"".toList.isPrefixOf behind
  | _, _ => false

end AliasUse

theorem infix_textOf_of_tail {form rest : List Piece} (h : rest ∈ form.tails) {focus : Focus}
    {chars : List Char} (hchars : chars <:+: charsOf rest focus) :
    chars <:+: (textOf form focus).toList := by
  obtain ⟨before, rfl⟩ := (List.mem_tails _ _).mp h
  rw [toList_textOf, charsOf_append]
  exact hchars.trans (List.suffix_append _ _).isInfix

theorem hasBasePath_of_opens {form : List Piece} (h : form.tails.any AliasUse.basePath.opens)
    (focus : Focus) :
    HasBasePath (textOf form focus) ("/api/" ++ Naming.instanceName focus.table.className) := by
  obtain ⟨rest, hrest, hopens⟩ := List.any_eq_true.mp h
  refine infix_textOf_of_tail hrest ?_
  unfold AliasUse.opens at hopens
  split at hopens
  case h_1 before behind others _ =>
    rw [Bool.and_eq_true, List.isSuffixOf_iff_suffix, List.isPrefixOf_iff_prefix] at hopens
    obtain ⟨⟨front, rfl⟩, after, rfl⟩ := hopens
    refine ⟨front, after ++ charsOf others focus, ?_⟩
    simp [Piece.chars, Term.text, Term.value, Datum.value, Template.printedText]
  case h_2 heq => cases heq
  case h_3 => cases hopens

theorem cachesUnder_of_opens {form : List Piece} (h : form.tails.any AliasUse.cacheName.opens)
    {focus : Focus} (hcache : focus.project.stack.cache) :
    CachesUnder (textOf form focus) (Naming.instanceName focus.table.className) := by
  obtain ⟨rest, hrest, hopens⟩ := List.any_eq_true.mp h
  refine infix_textOf_of_tail hrest ?_
  unfold AliasUse.opens at hopens
  split at hopens
  case h_1 heq => cases heq
  case h_2 before behind more others _ =>
    rw [Bool.and_eq_true, List.isSuffixOf_iff_suffix, List.isPrefixOf_iff_prefix] at hopens
    obtain ⟨⟨front, rfl⟩, after, rfl⟩ := hopens
    refine ⟨front, after ++ charsOf more focus ++ charsOf others focus, ?_⟩
    simp [Piece.chars, Term.text, Term.holds, Term.value, Datum.value, Template.printedText,
      Template.truth, Stack.has, hcache]
  case h_3 => cases hopens

/-! ### The templates -/

/-- A template of a Java file of a table with what is read off it. -/
structure TableTemplate where
  id : TemplateId
  lines : List String
  header : Header
  place : String
  types : TypeUse
  use : Option AliasUse := none
  hasComments : Bool := false

namespace TableTemplate

def entity (orm : Orm) : TableTemplate where
  id := match orm with
    | .mybatis => "mybatis/Entity.java.ftl"
    | .mybatisPlus => "mybatis-plus/Entity.java.ftl"
    | .jpa => "jpa/Entity.java.ftl"
  lines := match orm with
    | .mybatis => Template.Shipped.Mybatis.entity
    | .mybatisPlus => Template.Shipped.MybatisPlus.entity
    | .jpa => Template.Shipped.Jpa.entity
  header := entityHeader orm
  place := "entity"
  types := .ofColumns
  hasComments := true

def dataAccess (orm : Orm) : TableTemplate where
  id := match orm with
    | .mybatis => "mybatis/Mapper.java.ftl"
    | .mybatisPlus => "mybatis-plus/Mapper.java.ftl"
    | .jpa => "jpa/Repository.java.ftl"
  lines := match orm with
    | .mybatis => Template.Shipped.Mybatis.mapper
    | .mybatisPlus => Template.Shipped.MybatisPlus.mapper
    | .jpa => Template.Shipped.Jpa.repository
  header := dataAccessHeader orm
  place := if orm = .jpa then "repository" else "mapper"
  types := if orm = .mybatisPlus then .ofNothing else .ofKey

def service : TableTemplate where
  id := "common/Service.java.ftl"
  lines := Template.Shipped.Common.service
  header := serviceHeader
  place := "service"
  types := .ofKey

def serviceImpl (orm : Orm) : TableTemplate where
  id := match orm with
    | .mybatis => "mybatis/ServiceImpl.java.ftl"
    | .mybatisPlus => "mybatis-plus/ServiceImpl.java.ftl"
    | .jpa => "jpa/ServiceImpl.java.ftl"
  lines := match orm with
    | .mybatis => Template.Shipped.Mybatis.serviceImpl
    | .mybatisPlus => Template.Shipped.MybatisPlus.serviceImpl
    | .jpa => Template.Shipped.Jpa.serviceImpl
  header := serviceImplHeader orm
  place := "service/impl"
  types := .ofKey
  use := some .cacheName

def controller : TableTemplate where
  id := "common/Controller.java.ftl"
  lines := Template.Shipped.Common.controller
  header := controllerHeader
  place := "controller"
  types := .ofKey
  use := some .basePath
  hasComments := true

def check (template : TableTemplate) (form : List Piece) : Bool :=
  declares (Layout.subpackage template.place) form && template.types.check form
    && template.header.check form && (template.use.all fun use => form.tails.any use.opens)
    && (!template.hasComments || keepsComments form)

end TableTemplate

def tableTemplates : List TableTemplate := [
  .entity .mybatis, .entity .mybatisPlus, .entity .jpa,
  .dataAccess .mybatis, .dataAccess .mybatisPlus, .dataAccess .jpa, .service,
  .serviceImpl .mybatis, .serviceImpl .mybatisPlus, .serviceImpl .jpa, .controller]

theorem mem_tableTemplates_entity (orm : Orm) : .entity orm ∈ tableTemplates := by
  cases orm <;> simp [tableTemplates]

theorem mem_tableTemplates_dataAccess (orm : Orm) : .dataAccess orm ∈ tableTemplates := by
  cases orm <;> simp [tableTemplates]

theorem mem_tableTemplates_service : .service ∈ tableTemplates := by simp [tableTemplates]

theorem mem_tableTemplates_serviceImpl (orm : Orm) : .serviceImpl orm ∈ tableTemplates := by
  cases orm <;> simp [tableTemplates]

theorem mem_tableTemplates_controller : .controller ∈ tableTemplates := by simp [tableTemplates]

theorem exists_tableTemplate {role : Role} (hrole : role ∈ classRoles) (stack : Stack) :
    ∃ template ∈ tableTemplates, shippedFor stack role = some (template.id, template.lines) ∧
      headerFor stack.orm role = some template.header ∧ aliasUse role = template.use := by
  simp only [classRoles, List.mem_cons, List.not_mem_nil, or_false] at hrole
  rcases hrole with rfl | rfl | rfl | rfl | rfl
  · refine ⟨_, mem_tableTemplates_entity stack.orm, ?_, rfl, rfl⟩
    cases horm : stack.orm <;> simp only [shippedFor, horm, TableTemplate.entity]
  · refine ⟨_, mem_tableTemplates_dataAccess stack.orm, ?_, rfl, rfl⟩
    cases horm : stack.orm <;> simp only [shippedFor, horm, TableTemplate.dataAccess]
  · exact ⟨_, mem_tableTemplates_service, rfl, rfl, rfl⟩
  · refine ⟨_, mem_tableTemplates_serviceImpl stack.orm, ?_, rfl, rfl⟩
    cases horm : stack.orm <;> simp only [shippedFor, horm, TableTemplate.serviceImpl]
  · exact ⟨_, mem_tableTemplates_controller, rfl, rfl, rfl⟩

theorem typedTemplates_eq :
    typedTemplates = tableTemplates.map fun template => (template.lines, template.types) := rfl

theorem javaTemplates_eq : javaTemplates = javaTemplates.take 6 ++
    tableTemplates.map fun template => (.ofTable, template.lines, template.place) := rfl

/-! ### Their forms -/

/-- Every template of a Java file of a table is as it is said to be, and its header is regular. The
checks are evaluated together since they have much in common. -/
theorem hasForm_table : ∀ template ∈ tableTemplates,
    HasForm .ofTable template.lines fun form =>
      template.check form && decide template.header.Regular := by
  apply hasForm_of_spelled
  · simp only [tableTemplates, TableTemplate.entity, TableTemplate.dataAccess,
      TableTemplate.service, TableTemplate.serviceImpl, TableTemplate.controller,
      Template.Shipped.Common.service, Template.Shipped.Common.controller,
      Template.Shipped.Mybatis.entity, Template.Shipped.Mybatis.mapper,
      Template.Shipped.Mybatis.serviceImpl, Template.Shipped.MybatisPlus.entity,
      Template.Shipped.MybatisPlus.mapper, Template.Shipped.MybatisPlus.serviceImpl,
      Template.Shipped.Jpa.entity, Template.Shipped.Jpa.repository,
      Template.Shipped.Jpa.serviceImpl]
    repeat first | exact .nil | exact .last _ | apply Spelled.line | apply List.Forall₂.cons
  · decide +kernel

structure TableTemplate.Fits (template : TableTemplate) (form : List Piece) : Prop where
  isForm : ofChars? .ofTable (Template.charsOfLines template.lines) = some form
  declares : declares (Layout.subpackage template.place) form
  types : template.types.check form
  header : template.header.check form
  use : ∀ use ∈ template.use, form.tails.any use.opens
  comments : template.hasComments → keepsComments form

theorem exists_fits {template : TableTemplate} (h : template ∈ tableTemplates) :
    ∃ form, template.Fits form := by
  obtain ⟨form, hform, hcheck⟩ := hasForm_table template h
  simp only [TableTemplate.check, Bool.and_eq_true, Bool.or_eq_true, Bool.not_eq_true',
    Option.all_eq_true] at hcheck
  obtain ⟨⟨⟨⟨⟨hdeclares, htypes⟩, hheader⟩, huse⟩, hcomments⟩, -⟩ := hcheck
  refine ⟨form, hform, hdeclares, htypes, hheader, huse, ?_⟩
  intro hprinted
  exact hcomments.resolve_left (by simp [hprinted])

theorem hasForm_comments {template : TableTemplate} (h : template ∈ tableTemplates)
    (hprinted : template.hasComments) : HasForm .ofTable template.lines keepsComments := by
  obtain ⟨form, hfits⟩ := exists_fits h
  exact ⟨form, hfits.isForm, hfits.comments hprinted⟩

/-- Every template of a Java file of a table uses the types that it should. -/
theorem hasForm_typeUse : ∀ entry ∈ typedTemplates, HasForm .ofTable entry.1 entry.2.check := by
  rw [typedTemplates_eq, List.forall_mem_map]
  intro template hmem
  obtain ⟨form, hfits⟩ := exists_fits hmem
  exact ⟨form, hfits.isForm, hfits.types⟩

theorem hasForm_project : ∀ entry ∈ javaTemplates.take 6,
    HasForm entry.1 entry.2.1 (declares (Layout.subpackage entry.2.2)) := by
  simp only [javaTemplates, List.take_succ_cons, List.take_zero, List.forall_mem_cons,
    List.not_mem_nil, false_implies, implies_true, and_true]
  refine ⟨?_, ?_, ?_, ?_, ?_, ?_⟩
  all_goals
    apply Spelled.hasForm
    · simp only [Template.Shipped.Common.result, Template.Shipped.Common.resultCode,
        Template.Shipped.Common.openApiConfig, Template.Shipped.Mybatis.application,
        Template.Shipped.MybatisPlus.application, Template.Shipped.Jpa.application]
      repeat first | exact .last _ | apply Spelled.line
    · decide +kernel

/-- Every template of a Java file declares the package of its place. -/
theorem hasForm_declares : ∀ entry ∈ javaTemplates,
    HasForm entry.1 entry.2.1 (declares (Layout.subpackage entry.2.2)) := by
  rw [javaTemplates_eq, List.forall_mem_append, List.forall_mem_map]
  refine ⟨hasForm_project, ?_⟩
  intro template hmem
  obtain ⟨form, hfits⟩ := exists_fits hmem
  exact ⟨form, hfits.isForm, hfits.declares⟩

theorem regular_headers : ∀ template ∈ tableTemplates, template.header.Regular := by
  intro template hmem
  obtain ⟨_, _, hcheck⟩ := hasForm_table template hmem
  exact of_decide_eq_true (Bool.and_eq_true_iff.mp hcheck).2

end SchemaScaffold
