import SchemaScaffold.Generate
import SchemaScaffold.Proofs.Form.Sound
import SchemaScaffold.Template.Shipped

namespace SchemaScaffold.Form

open Template (charsOfLines ofLines ofWrittenChar)

def shippedRenderer : Renderer := Renderer.ofTexts fun id =>
  match Template.shipped.lookup id with
  | some text => .ok text
  | none => .error .noTemplate

/-- The shipped template that the standard selection takes for a role, with its lines. -/
def shippedFor (stack : Stack) : Role → Option (TemplateId × List String)
  | .buildFile =>
    match stack.buildTool with
    | .gradle => some ("gradle/build.gradle.ftl", Template.Shipped.Build.gradle)
    | .maven => some ("maven/pom.xml.ftl", Template.Shipped.Build.maven)
  | .appConfig => some ("common/application.properties.ftl", Template.Shipped.Common.settings)
  | .resultWrapper => some ("common/Result.java.ftl", Template.Shipped.Common.result)
  | .resultCodeEnum => some ("common/ResultCode.java.ftl", Template.Shipped.Common.resultCode)
  | .applicationEntryPoint =>
    match stack.orm with
    | .mybatisPlus =>
      some ("mybatis-plus/Application.java.ftl", Template.Shipped.MybatisPlus.application)
    | .mybatis => some ("mybatis/Application.java.ftl", Template.Shipped.Mybatis.application)
    | .jpa => some ("jpa/Application.java.ftl", Template.Shipped.Jpa.application)
  | .apiDocConfig =>
    if stack.apiDocs then
      some ("common/OpenApiConfig.java.ftl", Template.Shipped.Common.openApiConfig)
    else none
  | .entity =>
    match stack.orm with
    | .jpa => some ("jpa/Entity.java.ftl", Template.Shipped.Jpa.entity)
    | .mybatisPlus => some ("mybatis-plus/Entity.java.ftl", Template.Shipped.MybatisPlus.entity)
    | .mybatis => some ("mybatis/Entity.java.ftl", Template.Shipped.Mybatis.entity)
  | .dataAccess =>
    match stack.orm with
    | .jpa => some ("jpa/Repository.java.ftl", Template.Shipped.Jpa.repository)
    | .mybatisPlus => some ("mybatis-plus/Mapper.java.ftl", Template.Shipped.MybatisPlus.mapper)
    | .mybatis => some ("mybatis/Mapper.java.ftl", Template.Shipped.Mybatis.mapper)
  | .dataAccessMarkup =>
    match stack.orm with
    | .mybatis => some ("mybatis/Mapper.xml.ftl", Template.Shipped.Mybatis.mapperMarkup)
    | .mybatisPlus | .jpa => none
  | .serviceInterface => some ("common/Service.java.ftl", Template.Shipped.Common.service)
  | .serviceImpl =>
    match stack.orm with
    | .jpa => some ("jpa/ServiceImpl.java.ftl", Template.Shipped.Jpa.serviceImpl)
    | .mybatisPlus =>
      some ("mybatis-plus/ServiceImpl.java.ftl", Template.Shipped.MybatisPlus.serviceImpl)
    | .mybatis => some ("mybatis/ServiceImpl.java.ftl", Template.Shipped.Mybatis.serviceImpl)
  | .controller => some ("common/Controller.java.ftl", Template.Shipped.Common.controller)

theorem resolve_standard (stack : Stack) (role : Role) :
    Selector.standard.resolve role stack = (shippedFor stack role).map (·.1) := by
  cases role with
  | buildFile =>
      cases htool : stack.buildTool <;>
        simp [Selector.resolve, Selector.standard, Selector.standardRules, TemplateRule.applies,
          shippedFor, htool]
  | apiDocConfig =>
      cases hdocs : stack.apiDocs <;>
        simp [Selector.resolve, Selector.standard, Selector.standardRules, TemplateRule.applies,
          shippedFor, Stack.has, hdocs]
  | applicationEntryPoint | entity | dataAccess | dataAccessMarkup | serviceImpl =>
      cases horm : stack.orm <;>
        simp [Selector.resolve, Selector.standard, Selector.standardRules, TemplateRule.applies,
          shippedFor, horm]
  | appConfig | resultWrapper | resultCodeEnum | serviceInterface | controller =>
      simp [Selector.resolve, Selector.standard, Selector.standardRules, TemplateRule.applies,
        shippedFor]

theorem lookup_shipped {stack : Stack} {role : Role} {template : TemplateId × List String}
    (h : shippedFor stack role = some template) :
    Template.shipped.lookup template.1 = some (ofLines template.2) := by
  revert h
  cases role <;> simp only [shippedFor] <;> (try split) <;> rintro ⟨⟩ <;>
    simp [Template.shipped, List.lookup_cons]

/-- Where the standard selection finds a template with a form, the renderer prints the text of the
form. -/
theorem shippedRenderer_eq_textOf {stack : Stack} {role : Role} {scope : Scope}
    {template : TemplateId × List String} {form : List Piece}
    (htemplate : shippedFor stack role = some template)
    (hform : ofChars? scope (charsOfLines template.2) = some form) (focus : Focus) :
    shippedRenderer ((Known.model scope).value focus) template.1 = .ok (textOf form focus) := by
  rw [← Template.toList_ofLines] at hform
  simp only [shippedRenderer, Renderer.ofTexts, lookup_shipped htemplate, Traversal.ok_bind,
    renderText_of_ofChars? hform]

def Renders (project : Project) (table : Table) (role : Role) (content : String) : Prop :=
  ∃ template, Selector.standard.resolve role project.stack = some template ∧
    shippedRenderer (Model.ofTable project table) template = .ok content

theorem Renders.unique {project : Project} {table : Table} {role : Role} {content other : String}
    (h : Renders project table role content) (hother : Renders project table role other) :
    content = other := by
  obtain ⟨template, hresolve, hcontent⟩ := h
  obtain ⟨template', hresolve', hother⟩ := hother
  rw [hresolve] at hresolve'
  obtain rfl := Option.some.inj hresolve'
  rw [hcontent] at hother
  exact Except.ok.inj hother

theorem renders_textOf {project : Project} {role : Role} {template : TemplateId × List String}
    {form : List Piece} (htemplate : shippedFor project.stack role = some template)
    (hform : ofChars? .ofTable (charsOfLines template.2) = some form) (table : Table) :
    Renders project table role (textOf form { project, table }) := by
  refine ⟨template.1, ?_, shippedRenderer_eq_textOf htemplate hform { project, table }⟩
  rw [resolve_standard, htemplate, Option.map_some]

/-- The characters of a template, line by line. A line is given by its characters, which spares an
evaluation the decoding of texts. -/
inductive Spelled : List String → List Char → Prop where
  | last (chars : List Char) : Spelled [String.ofList chars] (chars.map ofWrittenChar)
  | line (chars : List Char) {next : String} {rest : List String} {others : List Char}
      (hothers : Spelled (next :: rest) others) :
      Spelled (String.ofList chars :: next :: rest) (chars.map ofWrittenChar ++ '\n' :: others)

theorem Spelled.charsOfLines_eq {lines : List String} {chars : List Char}
    (h : Spelled lines chars) : charsOfLines lines = chars := by
  induction h with
  | last chars => simp [charsOfLines]
  | line chars _ ih => simp [charsOfLines, ih]

/-- A template has a form that passes a check. -/
def HasForm (scope : Scope) (lines : List String) (check : List Piece → Bool) : Prop :=
  ∃ form, ofChars? scope (charsOfLines lines) = some form ∧ check form = true

theorem HasForm.weaken {scope : Scope} {lines : List String} {check other : List Piece → Bool}
    (h : HasForm scope lines check) (himp : ∀ form, check form → other form) :
    HasForm scope lines other := by
  obtain ⟨form, hform, hcheck⟩ := h
  exact ⟨form, hform, himp form hcheck⟩

theorem Spelled.hasForm {scope : Scope} {lines : List String} {chars : List Char}
    {check : List Piece → Bool} (hspelled : Spelled lines chars)
    (hcheck : (ofChars? scope chars).any check = true) : HasForm scope lines check := by
  rw [← hspelled.charsOfLines_eq] at hcheck
  exact (Option.any_eq_true_iff_get _ _).mp hcheck |>.elim fun h hget =>
    ⟨_, (Option.some_get h).symm, hget⟩

theorem hasForm_of_spelled {τ : Type} {scope : Scope} {lines : τ → List String}
    {check : τ → List Piece → Bool} {items : List τ} {texts : List (List Char)}
    (hspelled : List.Forall₂ (fun item chars => Spelled (lines item) chars) items texts)
    (hchecks : List.Forall₂ (fun item chars => (ofChars? scope chars).any (check item)) items
      texts) :
    ∀ item ∈ items, HasForm scope (lines item) (check item) := by
  induction hspelled with
  | nil => simp
  | cons hfirst _ ih =>
      obtain ⟨hcheck, hothers⟩ := List.forall₂_cons.mp hchecks
      rw [List.forall_mem_cons]
      exact ⟨hfirst.hasForm hcheck, ih hothers⟩

end SchemaScaffold.Form
