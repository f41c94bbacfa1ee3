import SchemaScaffold.Proofs.Form.TableTemplates
import SchemaScaffold.Proofs.Plans
import SchemaScaffold.Proofs.Tables

/-!
# Planned files and the places of their roles

Every file of a plan stands where its role belongs, except for entities whose class is named like a
file of another role. The first line of every Java file names the package of its role, so the same
entities are those that stand outside the package that they declare.
-/

namespace SchemaScaffold

open Form Layout

/-- An entity whose class is named like a file of another role. -/
def Artifact.IsMisread (artifact : Artifact) : Prop :=
  artifact.role = .entity ∧ ∃ table, artifact.table = some table ∧ IsForeign table.className

/-- A planned file stands where its role belongs, and a Java file in the package that it declares. -/
structure AtHome (project : Project) (artifact : Artifact) : Prop where
  place : IsEntry (directory project.packageName (home project.stack artifact.role))
    artifact.fileName (resolve artifact.fileName project.packageName)
  package : ∀ path, home project.stack artifact.role = .package path →
    Validation.packageName project.packageName = .ok () →
      ∃ content declared,
        shippedRenderer (Model.make project artifact.table) artifact.template = .ok content ∧
          Declares content declared ∧
            IsEntry (sourceDirectory declared) artifact.fileName
              (resolve artifact.fileName project.packageName)

theorem exists_declares {project : Project} {artifact : Artifact} {path : String} {scope : Scope}
    {focus : Focus} (hresolve : Selector.standard.resolve artifact.role project.stack =
      some artifact.template)
    (hscope : scopeOf artifact.role = scope) (hproject : focus.project = project)
    (hmodel : Model.make project artifact.table = (Known.model scope).value focus)
    (hhome : home project.stack artifact.role = .package path)
    (hpackage : Validation.packageName project.packageName = .ok ()) :
    ∃ content, shippedRenderer (Model.make project artifact.table) artifact.template = .ok content ∧
      Declares content (project.packageName ++ subpackage path) := by
  rw [resolve_standard] at hresolve
  obtain ⟨template, htemplate, hid⟩ := Option.map_eq_some_iff.mp hresolve
  obtain ⟨form, hform, hdeclares⟩ := hasForm_declares _ (mem_javaTemplates htemplate hhome)
  have hline : '\n' ∉ focus.project.packageName.toList := by
    rw [hproject]
    intro hmem
    have hblank := Validation.not_isBlank_of_packageName hpackage hmem
    revert hblank
    decide
  refine ⟨textOf form focus, ?_, ?_⟩
  · rw [hmodel, ← hid, ← hscope]
    exact shippedRenderer_eq_textOf htemplate hform focus
  · have htext := declares_textOf hdeclares hline (isPlace_home hhome).2.2
    rwa [hproject] at htext

section

variable {project : Project} {artifact : Artifact}

/-- A file stands in the package that it declares if it stands where its role belongs. -/
theorem atHome_iff_isEntry (focus : Focus)
    (hresolve : Selector.standard.resolve artifact.role project.stack = some artifact.template)
    (hproject : focus.project = project)
    (hmodel : Model.make project artifact.table =
      (Known.model (scopeOf artifact.role)).value focus) :
    AtHome project artifact ↔
      IsEntry (directory project.packageName (home project.stack artifact.role))
        artifact.fileName (resolve artifact.fileName project.packageName) := by
  constructor
  · exact AtHome.place
  · intro hplace
    refine ⟨hplace, fun path hhome hpackage => ?_⟩
    obtain ⟨content, hcontent, hdeclares⟩ :=
      exists_declares hresolve rfl hproject hmodel hhome hpackage
    refine ⟨content, _, hcontent, hdeclares, ?_⟩
    have hdirectory := components_sourceDirectory hpackage (isPlace_home hhome).1
      (isPlace_home hhome).2.1
    rw [IsEntry, hdirectory, ← hhome]
    exact hplace

theorem not_mem_appName (project : Project) : '/' ∉ project.appName.toList := by
  rw [Project.appName, Naming.applicationClassName, String.toList_ofList]
  exact Naming.not_mem_typeNameList (by decide)

theorem atHome_of_project (h : artifact ∈ Plan.artifacts project .standard none Role.ofProject) :
    AtHome project artifact := by
  obtain ⟨hrole, htable, hresolve, hname⟩ := Plan.mem_artifacts_iff.mp h
  have hscope : scopeOf artifact.role = .ofProject ∧ artifact.role ≠ .entity := by
    revert hrole
    cases artifact.role <;> decide
  rw [atHome_iff_isEntry { project, table := default } hresolve rfl
    (by rw [htable, hscope.1]; rfl), hname]
  exact isEntry_home hscope.2
    (isFileName_fileName _ (by simp) (not_mem_appName project) project.stack) _

theorem atHome_of_table_iff {table : Table}
    (h : artifact ∈ Plan.artifacts project .standard (some table) Role.ofTable)
    (hclass : '/' ∉ table.className.toList) (hresult : table.className ≠ "Result")
    (hcode : table.className ≠ "ResultCode") :
    AtHome project artifact ↔ ¬artifact.IsMisread := by
  obtain ⟨hrole, htable, hresolve, hname⟩ := Plan.mem_artifacts_iff.mp h
  have hscope : scopeOf artifact.role = .ofTable := by
    revert hrole
    cases artifact.role <;> decide
  have hfile := isFileName_fileName artifact.role hclass (not_mem_appName project) project.stack
  rw [atHome_iff_isEntry { project, table } hresolve rfl
    (by rw [htable, hscope]; rfl), hname]
  simp only [Option.map_some, Option.getD_some]
  by_cases hentity : artifact.role = .entity
  · have hmisread : artifact.IsMisread ↔ IsForeign table.className := by
      simp [Artifact.IsMisread, hentity, htable]
    rw [hentity] at hfile ⊢
    rw [hmisread]
    exact isEntry_entity_iff hfile hresult hcode _
  · have hmisread : ¬artifact.IsMisread := fun h => hentity h.1
    simp only [hmisread, not_false_eq_true, iff_true]
    exact isEntry_home hentity hfile _

end

section

variable {project : Project} {tables : List Table} {maxTables : Nat} {plan : List Artifact}

theorem exists_artifact (table : Option Table) {roles : List Role} {role : Role}
    {template : TemplateId × List String} (hrole : role ∈ roles)
    (htemplate : shippedFor project.stack role = some template) :
    ∃ artifact ∈ Plan.artifacts project .standard table roles,
      artifact.role = role ∧ artifact.table = table ∧
        artifact.fileName = role.fileName ((table.map (·.className)).getD "") project.appName
          project.stack := by
  refine ⟨⟨role, _, template.1, table⟩, Plan.mem_artifacts_iff.mpr ⟨hrole, rfl, ?_, rfl⟩, rfl, rfl,
    rfl⟩
  simp [resolve_standard, htemplate]

theorem exists_entity (project : Project) (table : Table) :
    ∃ artifact ∈ Plan.artifacts project .standard (some table) Role.ofTable,
      artifact.role = .entity ∧ artifact.table = some table ∧
        artifact.fileName = table.className ++ ".java" := by
  obtain ⟨template, htemplate⟩ : ∃ template, shippedFor project.stack .entity = some template := by
    cases horm : project.stack.orm <;> simp [shippedFor, horm]
  exact exists_artifact (some table) (by decide) htemplate

/-- No entity of a plan shares its name with a file of the project. -/
theorem fileName_ne_of_make (hplan : Plan.make project .standard tables maxTables = .ok plan)
    {table : Table} (htable : table ∈ tables) {role : Role} (hrole : role ∈ Role.ofProject)
    {template : TemplateId × List String}
    (htemplate : shippedFor project.stack role = some template) :
    role.fileName "" project.appName project.stack ≠ table.className ++ ".java" := by
  obtain ⟨-, -, -, hnodup, -⟩ := Plan.make_eq_ok_iff.mp hplan
  rw [Plan.all, List.map_append, List.nodup_append] at hnodup
  obtain ⟨entity, hentity, -, -, hname⟩ := exists_entity project table
  obtain ⟨other, hother, -, -, hname'⟩ := exists_artifact none hrole htemplate
  have hne := hnodup.2.2 _ (List.mem_map_of_mem hother) _
    (List.mem_map_of_mem (List.mem_flatMap.mpr ⟨table, htable, hentity⟩))
  rwa [hname, hname'] at hne

/-- A planned file is at home unless it is an entity that the layout takes for another file. -/
theorem planned_files_at_home_iff
    (htables : ∀ table ∈ tables,
      ∃ rawName comment columns, Table.make rawName comment columns = .ok table)
    (hplan : Plan.make project .standard tables maxTables = .ok plan) :
    (∀ artifact ∈ plan, AtHome project artifact ↔ ¬artifact.IsMisread) ∧
      ((∀ artifact ∈ plan, AtHome project artifact) ↔
        ∀ table ∈ tables, ¬IsForeign table.className) := by
  have hclass : ∀ table ∈ tables, '/' ∉ table.className.toList := by
    intro table htable
    obtain ⟨rawName, comment, columns, hmake⟩ := htables table htable
    rw [((Table.make_eq_ok_iff _ _ _ _).mp hmake).2, Table.of_className, Naming.typeName,
      String.toList_ofList]
    exact Naming.not_mem_typeNameList (by decide)
  have hplanned := (Plan.make_eq_ok_iff.mp hplan).2.2.2.2
  have hsingle : ∀ artifact ∈ plan, AtHome project artifact ↔ ¬artifact.IsMisread := by
    intro artifact hartifact
    rw [hplanned, Plan.mem_all_iff] at hartifact
    rcases hartifact with hproject | ⟨table, htable, hartifact⟩
    · have hmisread : ¬artifact.IsMisread := by
        rintro ⟨-, table, htable, -⟩
        rw [(Plan.mem_artifacts_iff.mp hproject).2.1] at htable
        cases htable
      simp only [atHome_of_project hproject, hmisread, not_false_eq_true]
    · refine atHome_of_table_iff hartifact (hclass table htable) ?_ ?_
      · intro heq
        have hrole : Role.resultWrapper ∈ Role.ofProject := by decide
        exact fileName_ne_of_make hplan htable hrole rfl (by rw [heq]; rfl)
      · intro heq
        have hrole : Role.resultCodeEnum ∈ Role.ofProject := by decide
        exact fileName_ne_of_make hplan htable hrole rfl (by rw [heq]; rfl)
  refine ⟨hsingle, ?_, ?_⟩
  · intro hhome table htable hforeign
    obtain ⟨entity, hentity, hrole, horigin, -⟩ := exists_entity project table
    have hmem : entity ∈ plan := by
      rw [hplanned, Plan.mem_all_iff]
      exact .inr ⟨table, htable, hentity⟩
    exact (hsingle entity hmem).mp (hhome entity hmem) ⟨hrole, table, horigin, hforeign⟩
  · intro hforeign artifact hartifact
    refine (hsingle artifact hartifact).mpr ?_
    rintro ⟨-, table, htable, hmisread⟩
    rw [hplanned, Plan.mem_all_iff] at hartifact
    rcases hartifact with hproject | ⟨other, hother, hartifact⟩
    · rw [(Plan.mem_artifacts_iff.mp hproject).2.1] at htable
      cases htable
    · rw [(Plan.mem_artifacts_iff.mp hartifact).2.1] at htable
      cases htable
      exact hforeign table hother hmisread

end

/-- A table with these names and nothing else makes a plan for the project. -/
theorem make_shop_eq_ok {rawName : String}
    (hnodup : ((Plan.all shop .standard [Table.of rawName none []]).map (·.fileName)).Nodup) :
    Plan.make shop .standard [Table.of rawName none []] 100 =
      .ok (Plan.all shop .standard [Table.of rawName none []]) :=
  Plan.make_eq_ok_iff.mpr ⟨by simp, by simp, by decide, hnodup, rfl⟩

theorem planned_files_at_home_sys_user :
    Plan.make shop .standard [Table.of "sys_user" none []] 100 =
        .ok (Plan.all shop .standard [Table.of "sys_user" none []]) ∧
      ∀ artifact ∈ Plan.all shop .standard [Table.of "sys_user" none []], AtHome shop artifact := by
  have hmake : Table.make "sys_user" none [] = .ok (Table.of "sys_user" none []) :=
    (Table.make_eq_ok_iff _ _ _ _).mpr ⟨by decide, rfl⟩
  have hplan : Plan.make shop .standard [Table.of "sys_user" none []] 100 =
      .ok (Plan.all shop .standard [Table.of "sys_user" none []]) :=
    make_shop_eq_ok (by decide)
  refine ⟨hplan, (planned_files_at_home_iff ?_ hplan).2.mpr ?_⟩
  · rintro table htable
    obtain rfl := List.mem_singleton.mp htable
    exact ⟨_, _, _, hmake⟩
  · rintro table htable
    obtain rfl := List.mem_singleton.mp htable
    rw [Table.of_className]
    decide

/-- The entity of a table `user_service` is taken for a service. -/
theorem user_service_entity_not_at_home :
    Plan.make shop .standard [Table.of "user_service" none []] 100 =
        .ok (Plan.all shop .standard [Table.of "user_service" none []]) ∧
      resolve "UserService.java" shop.packageName =
        ⟨"src/main/java/com/acme/shop/service/UserService.java"⟩ ∧
      ∃ artifact ∈ Plan.all shop .standard [Table.of "user_service" none []],
        artifact.role = .entity ∧ artifact.fileName = "UserService.java" ∧
          ¬AtHome shop artifact := by
  refine ⟨make_shop_eq_ok (by decide), by decide, ?_⟩
  obtain ⟨entity, hentity, hrole, -, hname⟩ := exists_entity shop (Table.of "user_service" none [])
  have hclass : (Table.of "user_service" none []).className = "UserService" := by
    rw [Table.of_className]
    decide
  rw [hclass] at hname
  refine ⟨entity, Plan.mem_all_iff.mpr (.inr ⟨_, by simp, hentity⟩), hrole, hname, fun hhome => ?_⟩
  have hplace := hhome.place
  rw [hrole, hname] at hplace
  revert hplace
  decide +kernel

end SchemaScaffold
