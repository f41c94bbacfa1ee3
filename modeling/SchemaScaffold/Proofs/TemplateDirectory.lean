import SchemaScaffold.Proofs.DiskPlaces
import SchemaScaffold.Proofs.Form.TableTemplates
import SchemaScaffold.Proofs.Generation

namespace SchemaScaffold

open Form

def Form.Scope.table? : Scope → Table → Option Table
  | ofProject, _ => none
  | ofTable, table => some table

theorem value_model (scope : Scope) (project : Project) (table : Table) :
    (Known.model scope).value { project, table } = Model.make project (scope.table? table) := by
  cases scope <;> rfl

def javaNames : List TemplateId := [
  "common/Result.java.ftl", "common/ResultCode.java.ftl", "common/OpenApiConfig.java.ftl",
  "mybatis/Application.java.ftl", "mybatis-plus/Application.java.ftl", "jpa/Application.java.ftl",
  "mybatis/Entity.java.ftl", "mybatis-plus/Entity.java.ftl", "jpa/Entity.java.ftl",
  "mybatis/Mapper.java.ftl", "mybatis-plus/Mapper.java.ftl", "jpa/Repository.java.ftl",
  "common/Service.java.ftl", "mybatis/ServiceImpl.java.ftl", "mybatis-plus/ServiceImpl.java.ftl",
  "jpa/ServiceImpl.java.ftl", "common/Controller.java.ftl"]

def otherTemplates : List (Scope × TemplateId × List String) := [
  (.ofProject, "common/Application.java.ftl", Template.Shipped.Common.application),
  (.ofProject, "common/application.properties.ftl", Template.Shipped.Common.settings),
  (.ofProject, "gradle/build.gradle.ftl", Template.Shipped.Build.gradle),
  (.ofProject, "maven/pom.xml.ftl", Template.Shipped.Build.maven),
  (.ofTable, "mybatis/Mapper.xml.ftl", Template.Shipped.Mybatis.mapperMarkup)]

/-- The shipped templates, each with the scope that it is rendered in. -/
def scopedTemplates : List (Scope × TemplateId × List String) :=
  otherTemplates ++
    (javaNames.zip javaTemplates).map fun named => (named.2.1, named.1, named.2.2.1)

theorem mem_shipped : ∀ entry ∈ scopedTemplates,
    (entry.2.1, Template.ofLines entry.2.2) ∈ Template.shipped := by
  simp [scopedTemplates, otherTemplates, javaNames, javaTemplates, Template.shipped]

/-- A template that a row of the decision table names is shipped, and used in the scope of the role
of the row. -/
theorem exists_scopedTemplate {rule : TemplateRule} (hrule : rule ∈ Selector.standardRules)
    {id : TemplateId} (hid : rule.template = some id) :
    ∃ lines, (scopeOf rule.role, id, lines) ∈ scopedTemplates := by
  have hnamed : ∀ rule ∈ Selector.standardRules, ∀ id ∈ rule.template,
      (scopeOf rule.role, id) ∈ scopedTemplates.map fun entry => (entry.1, entry.2.1) := by
    decide
  obtain ⟨⟨scope, name, lines⟩, hmem, hentry⟩ := List.mem_map.mp (hnamed rule hrule id hid)
  obtain ⟨rfl, rfl⟩ := Prod.mk.inj hentry
  exact ⟨lines, hmem⟩

theorem exists_scopedTemplate_of_resolve {role : Role} {stack : Stack} {id : TemplateId}
    (h : Selector.standard.resolve role stack = some id) :
    ∃ lines, (scopeOf role, id, lines) ∈ scopedTemplates := by
  obtain ⟨rule, hfind, hid⟩ := Option.bind_eq_some_iff.mp h
  have happlies := List.find?_some hfind
  simp only [TemplateRule.applies, Bool.and_eq_true, beq_iff_eq] at happlies
  obtain ⟨⟨⟨rfl, -⟩, -⟩, -⟩ := happlies
  exact exists_scopedTemplate (List.mem_of_find?_eq_some hfind) hid

/-! ### Every template has a form -/

theorem Form.HasForm.exists_form {scope : Scope} {lines : List String}
    {check : List Piece → Bool} (h : HasForm scope lines check) :
    ∃ form, ofChars? scope (Template.charsOfLines lines) = some form :=
  h.imp fun _ hform => hform.1

theorem hasForm_otherTemplates : ∀ entry ∈ otherTemplates,
    HasForm entry.1 entry.2.2 fun _ => true := by
  simp only [otherTemplates, List.forall_mem_cons, List.not_mem_nil, false_implies, implies_true,
    and_true]
  refine ⟨?_, ?_, ?_, ?_, ?_⟩
  all_goals
    apply Spelled.hasForm
    · simp only [Template.Shipped.Common.application, Template.Shipped.Common.settings,
        Template.Shipped.Build.gradle, Template.Shipped.Build.maven,
        Template.Shipped.Mybatis.mapperMarkup]
      repeat first | exact .last _ | apply Spelled.line
    · decide +kernel

theorem exists_form : ∀ entry ∈ scopedTemplates,
    ∃ form, ofChars? entry.1 (Template.charsOfLines entry.2.2) = some form := by
  intro entry hentry
  rcases List.mem_append.mp hentry with hother | hjava
  · exact (hasForm_otherTemplates entry hother).exists_form
  · obtain ⟨⟨id, java⟩, hmem, rfl⟩ := List.mem_map.mp hjava
    exact (hasForm_declares java (List.of_mem_zip hmem).2).exists_form

/-! ### Names of templates -/

namespace TemplateTree

def folders : List (String × List String) := [
  ("common", ["Application.java.ftl", "application.properties.ftl", "Result.java.ftl",
    "ResultCode.java.ftl", "OpenApiConfig.java.ftl", "Service.java.ftl", "Controller.java.ftl"]),
  ("gradle", ["build.gradle.ftl"]),
  ("maven", ["pom.xml.ftl"]),
  ("mybatis", ["Application.java.ftl", "Entity.java.ftl", "Mapper.java.ftl", "Mapper.xml.ftl",
    "ServiceImpl.java.ftl"]),
  ("mybatis-plus", ["Application.java.ftl", "Entity.java.ftl", "Mapper.java.ftl",
    "ServiceImpl.java.ftl"]),
  ("jpa", ["Application.java.ftl", "Entity.java.ftl", "Repository.java.ftl",
    "ServiceImpl.java.ftl"])]

theorem ids_eq : Template.shipped.map Prod.fst =
    folders.flatMap fun folder => folder.2.map fun name => folder.1 ++ "/" ++ name := by
  decide

theorem exists_folder {id : TemplateId} (h : id ∈ Template.shipped.map Prod.fst) :
    ∃ folder ∈ folders, ∃ name ∈ folder.2, folder.1 ++ "/" ++ name = id := by
  rw [ids_eq] at h
  obtain ⟨folder, hfolder, hmem⟩ := List.mem_flatMap.mp h
  obtain ⟨name, hname, rfl⟩ := List.mem_map.mp hmem
  exact ⟨folder, hfolder, name, hname, rfl⟩

structure IsPart (name : String) : Prop where
  entry : Disk.IsEntryName name
  plain : !name.startsWith "." && !name.contains '\\'

theorem isPart_of_mem {folder : String × List String} (hfolder : folder ∈ folders) {name : String}
    (hname : name ∈ folder.1 :: folder.2) : IsPart name := by
  have hchecked : ∀ folder ∈ folders, ∀ name ∈ folder.1 :: folder.2,
      '/' ∉ name.toList ∧ '\\' ∉ name.toList ∧ name.startsWith "." = false ∧ name ≠ "" ∧
        name ≠ "." ∧ name ≠ ".." ∧ name.utf8ByteSize ≤ Disk.maxNameBytes := by
    decide +kernel
  obtain ⟨hslash, hescape, hstart, hempty, hdot, hup, hshort⟩ := hchecked folder hfolder name hname
  refine ⟨⟨⟨hslash, hempty, hdot⟩, hup, hshort⟩, ?_⟩
  simp [hstart, String.contains_char_eq, hescape]

theorem fieldsOf_id {folder name : String} (hfolder : Disk.IsEntryName folder)
    (hname : Disk.IsEntryName name) : Text.fieldsOf '/' (folder ++ "/" ++ name) = [folder, name] := by
  have hslash : ∀ part ∈ [folder, name], '/' ∉ part.toList := by
    simp [hfolder.slash, hname.slash]
  have htext : "/".intercalate [folder, name] = folder ++ "/" ++ name := by simp
  rw [← htext]
  exact Text.fieldsOf_intercalate (by simp) hslash

theorem isSafeName_of_mem_shipped {id : TemplateId} (h : id ∈ Template.shipped.map Prod.fst) :
    Renderer.isSafeName id := by
  obtain ⟨folder, hmem, name, hname, rfl⟩ := exists_folder h
  have hfolder := isPart_of_mem hmem List.mem_cons_self
  have hpart := isPart_of_mem hmem (List.mem_cons_of_mem _ hname)
  rw [Renderer.isSafeName, fieldsOf_id hfolder.entry hpart.entry, List.all_cons, List.all_cons,
    hfolder.plain, hpart.plain]
  rfl

end TemplateTree

/-! ### Reading templates from a directory -/

/-- A directory holds the shipped templates under their names. -/
structure HoldsTemplates (disk : Disk) (start : AbsPath) (dir : Path) : Prop where
  isDirectory : disk.isDirectory start dir
  readText : ∀ entry ∈ Template.shipped,
    disk.readText start (((Text.fieldsOf '/' entry.1).map Path.mk).foldl Path.join dir) =
      .ok entry.2

section

variable {disk : Disk} {start : AbsPath} {dir : Path} (hdisk : HoldsTemplates disk start dir)

include hdisk

theorem HoldsTemplates.textIn_eq {entry : TemplateId × String} (h : entry ∈ Template.shipped) :
    Renderer.textIn disk start dir entry.1 = .ok entry.2 := by
  have hsafe := TemplateTree.isSafeName_of_mem_shipped (List.mem_map_of_mem h)
  simp only [Renderer.textIn, hsafe, hdisk.readText entry h, Bool.not_true, Bool.false_eq_true,
    if_false]

/-- A template renders from the directory in its scope, whatever the data are. -/
theorem HoldsTemplates.exists_content {entry : Scope × TemplateId × List String}
    (h : entry ∈ scopedTemplates) (project : Project) (table : Table) :
    ∃ content, Renderer.ofTexts (Renderer.textIn disk start dir)
      (Model.make project (entry.1.table? table)) entry.2.1 = .ok content := by
  obtain ⟨form, hform⟩ := exists_form entry h
  rw [← Template.toList_ofLines] at hform
  refine ⟨textOf form { project, table }, ?_⟩
  simp only [Renderer.ofTexts, hdisk.textIn_eq (mem_shipped entry h), Traversal.ok_bind,
    ← value_model, renderText_of_ofChars? hform]

theorem HoldsTemplates.exists_contentOf {project : Project} {tables : List Table}
    {artifact : Artifact} (h : artifact ∈ Plan.all project .standard tables) :
    ∃ content, Generate.contentOf (Renderer.ofTexts (Renderer.textIn disk start dir)) project
      artifact = .ok content := by
  rw [Generate.contentOf]
  rcases Plan.mem_all_iff.mp h with hproject | ⟨table, -, hown⟩
  · obtain ⟨hrole, hnone, hresolve, -⟩ := Plan.mem_artifacts_iff.mp hproject
    obtain ⟨lines, hmem⟩ := exists_scopedTemplate_of_resolve hresolve
    obtain ⟨content, hcontent⟩ := hdisk.exists_content hmem project default
    have hscope : ∀ role ∈ Role.ofProject, scopeOf role = .ofProject := by decide
    rw [hscope _ hrole] at hcontent
    rw [hnone]
    exact ⟨content, hcontent⟩
  · obtain ⟨hrole, hsome, hresolve, -⟩ := Plan.mem_artifacts_iff.mp hown
    obtain ⟨lines, hmem⟩ := exists_scopedTemplate_of_resolve hresolve
    obtain ⟨content, hcontent⟩ := hdisk.exists_content hmem project table
    have hscope : scopeOf artifact.role = .ofTable := if_pos (List.contains_iff_mem.mpr hrole)
    rw [hscope] at hcontent
    rw [hsome]
    exact ⟨content, hcontent⟩

end

/-- With the shipped templates in its directory, the renderer is made and never fails. Every row of
the decision table names a template that is there and renders in its scope for every project and
table, and so the files of every accepted plan are generated. -/
theorem shipped_templates_render (disk : Disk) (start : AbsPath) (dir : Path)
    (hdisk : HoldsTemplates disk start dir) :
    ∃ renderer, Renderer.ofDirectory disk start dir = .ok renderer ∧
      (∀ rule ∈ Selector.standardRules, ∀ id, rule.template = some id →
        id ∈ Template.shipped.map Prod.fst ∧
          ∀ (project : Project) (table : Table), ∃ content,
            renderer (Model.make project ((scopeOf rule.role).table? table)) id = .ok content) ∧
      ∀ (project : Project) (tables : List Table) (maxTables : Nat) (plan : List Artifact),
        Plan.make project .standard tables maxTables = .ok plan →
          ∃ files, Generate.ofTables renderer project .standard tables maxTables = .ok files := by
  have hrenderer : Renderer.ofDirectory disk start dir =
      .ok (Renderer.ofTexts (Renderer.textIn disk start dir)) := by
    rw [Renderer.ofDirectory, if_pos hdisk.isDirectory]
  refine ⟨_, hrenderer, ?_, ?_⟩
  · intro rule hrule id hid
    obtain ⟨lines, hmem⟩ := exists_scopedTemplate hrule hid
    have hshipped := List.mem_map_of_mem (f := Prod.fst) (mem_shipped _ hmem)
    have hcontent := hdisk.exists_content hmem
    exact ⟨hshipped, hcontent⟩
  · intro project tables maxTables plan hplan
    obtain ⟨-, -, -, -, hall⟩ := Plan.make_eq_ok_iff.mp hplan
    rw [Generate.exists_ofTables_iff hplan]
    intro artifact hartifact
    rw [hall] at hartifact
    exact hdisk.exists_contentOf hartifact

namespace TemplateTree

def disk (text : TemplateId → String) : Disk where
  entries := [("templates", .directory (folders.map fun folder =>
    (folder.1, .directory (folder.2.map fun name =>
      (name, .file (text (folder.1 ++ "/" ++ name)).toUTF8)))))]

theorem isEntryName_templates : Disk.IsEntryName "templates" :=
  ⟨⟨by decide, by decide, by decide⟩, by decide, by decide⟩

theorem node?_disk (text : TemplateId → String) : ∀ folder ∈ folders, ∀ name ∈ folder.2,
    (disk text).node? ⟨["templates", folder.1, name]⟩ =
      some (.file (text (folder.1 ++ "/" ++ name)).toUTF8) := by
  simp only [folders, List.forall_mem_cons, List.not_mem_nil, false_implies, implies_true,
    and_true]
  refine ⟨⟨?_, ?_, ?_, ?_, ?_, ?_, ?_⟩, ?_, ?_, ⟨?_, ?_, ?_, ?_, ?_⟩, ⟨?_, ?_, ?_, ?_⟩, ?_, ?_, ?_,
    ?_⟩ <;> rfl

theorem endsInSlash_append {name : String} (hname : Disk.IsEntryName name) (front : String) :
    Path.endsInSlash (front ++ name) = false := by
  have hne : name.toList ≠ [] := by simpa using hname.empty
  obtain ⟨init, c, hlast⟩ := (List.eq_nil_or_concat' name.toList).resolve_left hne
  have hc : c ≠ '/' := by
    rintro rfl
    exact hname.slash (by simp [hlast])
  simp [Path.endsInSlash, hlast, hc]

theorem join_entryName {base name : String} (hbase : base ≠ "")
    (hend : Path.endsInSlash base = false) (hname : Disk.IsEntryName name) :
    (Path.mk base).join ⟨name⟩ = ⟨base ++ "/" ++ name⟩ := by
  have hrelative : (Path.mk name).isAbsolute = false := Layout.isAbsolute_mk hname.slash
  simp [Path.join, hrelative, Path.isEmpty, hbase, hend]

theorem path_of_id {folder name : String} (hfolder : Disk.IsEntryName folder)
    (hname : Disk.IsEntryName name) :
    ((Text.fieldsOf '/' (folder ++ "/" ++ name)).map Path.mk).foldl Path.join ⟨"/templates"⟩ =
      (AbsPath.mk ["templates", folder, name]).toPath := by
  have hdirectory : (Path.mk "/templates").join ⟨folder⟩ = ⟨"/templates" ++ "/" ++ folder⟩ :=
    join_entryName (by decide) (by decide) hfolder
  rw [fieldsOf_id hfolder hname, List.map_cons, List.map_singleton, List.foldl_cons,
    List.foldl_cons, List.foldl_nil, hdirectory,
    join_entryName (by simp) (endsInSlash_append hfolder _) hname]
  rfl

def text (id : TemplateId) : String := (Template.shipped.lookup id).getD ""

theorem text_of_mem : ∀ entry ∈ Template.shipped, text entry.1 = entry.2 := by
  simp [Template.shipped, text, List.lookup_cons]

theorem holdsTemplates_disk : HoldsTemplates (disk text) .root ⟨"/templates"⟩ where
  isDirectory := by decide
  readText := by
    intro entry hentry
    obtain ⟨folder, hfolder, name, hname, hid⟩ := exists_folder (List.mem_map_of_mem hentry)
    have hnode := node?_disk text folder hfolder name hname
    rw [hid, text_of_mem entry hentry] at hnode
    have hdirectory := isPart_of_mem hfolder List.mem_cons_self
    have hfile := isPart_of_mem hfolder (List.mem_cons_of_mem _ hname)
    have hnames : ∀ part ∈ ["templates", folder.1, name], Disk.IsEntryName part := by
      simp [isEntryName_templates, hdirectory.entry, hfile.entry]
    have hpath := path_of_id hdirectory.entry hfile.entry
    rw [hid] at hpath
    rw [hpath]
    exact Disk.readText_of_node? hnode hnames (by simp)

end TemplateTree

/-- A directory with the shipped templates, and a plan for one table. -/
theorem shipped_templates_render_users :
    let disk := TemplateTree.disk TemplateTree.text
    let users := Table.of "sys_user" none []
    let plan := Plan.all shop .standard [users]
    HoldsTemplates disk .root ⟨"/templates"⟩ ∧
      Plan.make shop .standard [users] 100 = .ok plan ∧
      ∃ renderer files, Renderer.ofDirectory disk .root ⟨"/templates"⟩ = .ok renderer ∧
        Generate.ofTables renderer shop .standard [users] 100 = .ok files := by
  intro disk users plan
  have hplan : Plan.make shop .standard [users] 100 = .ok plan :=
    Plan.make_eq_ok_iff.mpr ⟨by simp, by simp, by decide, by decide, rfl⟩
  have hdisk := TemplateTree.holdsTemplates_disk
  obtain ⟨renderer, hrenderer, -, hrenders⟩ := shipped_templates_render disk .root _ hdisk
  obtain ⟨files, hfiles⟩ := hrenders shop [users] 100 plan hplan
  exact ⟨hdisk, hplan, renderer, files, hrenderer, hfiles⟩

end SchemaScaffold
