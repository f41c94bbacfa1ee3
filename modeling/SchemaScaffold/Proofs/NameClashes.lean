import SchemaScaffold.Proofs.Form.TableTemplates
import SchemaScaffold.Proofs.Generation

/-!
# Tables that are called like imported types

The class of a table may have any name that its identifier leads to, and the templates import types
of the frameworks under their simple names. A table whose class is called like one of these makes a
file with two imports of one name, or with an import of the name that the file declares itself.
-/

namespace SchemaScaffold

open Form

/-! ### Types that are called like the declared one -/

section

variable {focus : Focus}

theorem eq_append_iff {text start back : String} (h : text = start ++ back) (name : String) :
    text = name ++ back ↔ name = start := by
  rw [h, ← String.toList_inj, ← String.toList_inj, String.toList_append, String.toList_append,
    List.append_cancel_right_eq, eq_comm]

theorem ne_append_of_not_suffix {text back : String} (h : ¬back.toList <:+ text.toList)
    (name : String) : text ≠ name ++ back := by
  rintro rfl
  exact h (by simp)

/-- Only the interface of a framework that the one of a table extends may be called like it. -/
theorem dataAccess_name_iff (hne : focus.table.className ≠ "") (orm : Orm) :
    (∀ type ∈ (dataAccessHeader orm).fixedTypes focus,
        type.2 = (dataAccessHeader orm).typeName focus →
          type.1 = focus.package (dataAccessHeader orm).folder) ↔
      (orm = .mybatisPlus → focus.table.className = "Base" →
          focus.project.packageName = "com.baomidou.mybatisplus.core") ∧
        (orm = .jpa → focus.table.className = "Jpa" →
          focus.project.packageName = "org.springframework.data.jpa") := by
  have hpackage : ∀ folder : String,
      focus.package folder = focus.project.packageName ++ ("." ++ folder) := by
    intro folder
    rw [Focus.package, String.append_assoc]
  cases orm with
  | mybatis =>
      have htypes : (dataAccessHeader .mybatis).fixedTypes focus = [("java.util", "List"),
          ("org.apache.ibatis.annotations", "Mapper"),
          ("org.apache.ibatis.annotations", "Param")] := rfl
      have hname : (dataAccessHeader .mybatis).typeName focus =
          focus.table.className ++ "Mapper" := by simp [Header.typeName, dataAccessHeader]
      have hmapper := eq_append_iff (by decide : "Mapper" = "" ++ "Mapper") focus.table.className
      have hlist := ne_append_of_not_suffix (by decide : ¬"Mapper".toList <:+ "List".toList)
        focus.table.className
      have hparam := ne_append_of_not_suffix (by decide : ¬"Mapper".toList <:+ "Param".toList)
        focus.table.className
      simp [htypes, hname, hmapper, hlist, hparam, hne]
  | mybatisPlus =>
      have htypes : (dataAccessHeader .mybatisPlus).fixedTypes focus =
          [("com.baomidou.mybatisplus.core.mapper", "BaseMapper"),
            ("org.apache.ibatis.annotations", "Mapper")] := rfl
      have hname : (dataAccessHeader .mybatisPlus).typeName focus =
          focus.table.className ++ "Mapper" := by simp [Header.typeName, dataAccessHeader]
      have hmapper := eq_append_iff (by decide : "Mapper" = "" ++ "Mapper") focus.table.className
      have hbase := eq_append_iff (by decide : "BaseMapper" = "Base" ++ "Mapper")
        focus.table.className
      have hfolder := eq_append_iff (by decide : "com.baomidou.mybatisplus.core.mapper" =
        "com.baomidou.mybatisplus.core" ++ ("." ++ "mapper")) focus.project.packageName
      have hsame : (dataAccessHeader .mybatisPlus).folder = "mapper" := rfl
      simp only [htypes, hname, hsame, hpackage, List.forall_mem_cons, hmapper, hbase, hfolder,
        hne]
      simp
  | jpa =>
      have htypes : (dataAccessHeader .jpa).fixedTypes focus =
          [("org.springframework.data.jpa.repository", "JpaRepository"),
            ("org.springframework.stereotype", "Repository")] := rfl
      have hname : (dataAccessHeader .jpa).typeName focus =
          focus.table.className ++ "Repository" := by simp [Header.typeName, dataAccessHeader]
      have hrepository := eq_append_iff (by decide : "Repository" = "" ++ "Repository")
        focus.table.className
      have hjpa := eq_append_iff (by decide : "JpaRepository" = "Jpa" ++ "Repository")
        focus.table.className
      have hfolder := eq_append_iff (by decide : "org.springframework.data.jpa.repository" =
        "org.springframework.data.jpa" ++ ("." ++ "repository")) focus.project.packageName
      have hsame : (dataAccessHeader .jpa).folder = "repository" := rfl
      simp only [htypes, hname, hsame, hpackage, List.forall_mem_cons, hrepository, hjpa, hfolder,
        hne]
      simp

theorem declared_ne_fixed {header : Header}
    (h : ∀ name ∈ header.names, ¬header.back.toList <:+ name.toList) {type : String × String}
    (htype : type ∈ header.fixedTypes focus) : type.2 ≠ header.typeName focus := by
  rw [Header.typeName]
  exact ne_append_of_not_suffix (h _ (Header.name_mem_of_fixed htype)) _

/-- Where no import is called like the table, only an interface for data access can be called like
one of its imports. -/
theorem declared_name_iff (hne : focus.table.className ≠ "") {orm : Orm} {role : Role}
    {header : Header} (hheader : headerFor orm role = some header)
    (hclass : focus.table.className ∉ (header.fixedTypes focus).map Prod.snd) :
    (∀ type ∈ header.fixedTypes focus, type.2 = header.typeName focus →
        type.1 = focus.package header.folder) ↔
      (role = .dataAccess → (orm = .mybatisPlus → focus.table.className = "Base" →
            focus.project.packageName = "com.baomidou.mybatisplus.core") ∧
          (orm = .jpa → focus.table.className = "Jpa" →
            focus.project.packageName = "org.springframework.data.jpa")) := by
  by_cases hrole : role = .dataAccess
  · subst hrole
    obtain rfl := Option.some.inj hheader
    simp only [true_implies]
    exact dataAccess_name_iff hne orm
  · simp only [hrole, false_implies, iff_true]
    intro type htype hname
    exfalso
    cases role with
    | entity =>
        obtain rfl := Option.some.inj hheader
        apply hclass
        rw [show focus.table.className = type.2 by simp [hname, Header.typeName, entityHeader]]
        exact List.mem_map_of_mem htype
    | serviceInterface =>
        obtain rfl := Option.some.inj hheader
        exact declared_ne_fixed (by decide) htype hname
    | serviceImpl =>
        obtain rfl := Option.some.inj hheader
        exact declared_ne_fixed (by cases orm <;> decide) htype hname
    | controller =>
        obtain rfl := Option.some.inj hheader
        exact declared_ne_fixed (by decide) htype hname
    | dataAccess => exact hrole rfl
    | _ => cases hheader

end

/-! ### Clashes of the class of a table -/

def fixedImports (project : Project) (table : Table) (role : Role) : List (String × String) :=
  match headerFor project.stack.orm role with
  | some header => header.fixedTypes { project, table }
  | none => []

theorem fileName_eq_typeName {project : Project} {table : Table} {role : Role} {header : Header}
    (hheader : headerFor project.stack.orm role = some header) :
    role.fileName table.className project.appName project.stack =
      header.typeName { project, table } ++ ".java" := by
  cases role <;> cases hheader <;> cases horm : project.stack.orm <;>
    simp [Role.fileName, Header.typeName, entityHeader, dataAccessHeader, serviceHeader,
      serviceImplHeader, controllerHeader, horm, String.append_assoc]

theorem named_of_make {project : Project} {rawName : String} {comment : Option String}
    {columns : List Column} {table : Table}
    (htable : Table.make rawName comment columns = .ok table)
    (hpackage : Validation.packageName project.packageName = .ok ()) :
    Focus.Named { project, table } := by
  obtain ⟨hne, rfl⟩ := (Table.make_eq_ok_iff _ _ _ _).mp htable
  have hname : ∀ c, Text.isNameChar c = false →
      c ∉ (Table.of rawName comment columns).className.toList := by
    intro c hc
    rw [Table.of_className, Naming.typeName, String.toList_ofList]
    exact Naming.not_mem_typeNameList hc
  have hline : '\n' ∉ project.packageName.toList := by
    intro hmem
    have hblank := Validation.not_isBlank_of_packageName hpackage hmem
    revert hblank
    decide
  exact { packageName := hline
          className := hname _ (by decide)
          dot := hname _ (by decide)
          asterisk := hname _ (by decide)
          ne := by rwa [Table.of_className] }

section

variable {project : Project} {table : Table} {role : Role}

/-- The Java file of a role names its types without ambiguity exactly when the class of the table is
not called like one of the types that the file imports anyway, and the interface for data access is
not called like the one of the framework that it extends. -/
theorem names_apart_unless_taken {rawName : String} {comment : Option String}
    {columns : List Column} (htable : Table.make rawName comment columns = .ok table)
    (hpackage : Validation.packageName project.packageName = .ok ())
    (hrole : role ∈ classRoles) :
    ∃ content package name, Renders project table role content ∧ Declares content package ∧
      DeclaresType content name ∧
      role.fileName table.className project.appName project.stack = name ++ ".java" ∧
      (NamesApart content package name ↔
        table.className ∉ (fixedImports project table role).map Prod.snd ∧
          (role = .dataAccess →
            (project.stack.orm = .mybatisPlus → table.className = "Base" →
                project.packageName = "com.baomidou.mybatisplus.core") ∧
              (project.stack.orm = .jpa → table.className = "Jpa" →
                project.packageName = "org.springframework.data.jpa"))) := by
  have hfocus := named_of_make htable hpackage
  obtain ⟨template, hmem, htemplate, hheader, -⟩ := exists_tableTemplate hrole project.stack
  obtain ⟨form, hform⟩ := exists_fits hmem
  have hregular := regular_headers _ hmem
  have himports : ∀ path ∈ Focus.imports { project, table },
      ∃ type ∈ recordable, path = qualified type := by
    obtain ⟨-, rfl⟩ := (Table.make_eq_ok_iff _ _ _ _).mp htable
    exact fun path => exists_recordable
  have hfixed : fixedImports project table role =
      template.header.fixedTypes { project, table } := by
    rw [fixedImports, hheader]
  refine ⟨_, _, _, renders_textOf htemplate hform.isForm table,
    Header.declares_of_check hform.header (hregular.not_mem_packageLine hfocus),
    Header.declaresType_of_check hform.header, fileName_eq_typeName hheader, ?_⟩
  rw [hregular.namesApart_iff hfocus himports hform.header, hfixed]
  exact and_congr_right fun hclass => declared_name_iff hfocus.ne hheader hclass

end

def lists : Table := Table.of "list" none [keyColumn]

theorem make_lists : Table.make "list" none [keyColumn] = .ok lists :=
  (Table.make_eq_ok_iff _ _ _ _).mpr ⟨by decide, rfl⟩

theorem className_lists : lists.className = "List" := by decide

/-- The entity of a table of lists is the only file of it that imports nothing from `java.util`. -/
theorem names_apart_unless_taken_lists_entity :
    ∃ content package name, Renders shop lists .entity content ∧ Declares content package ∧
      DeclaresType content name ∧ NamesApart content package name := by
  have hrole : Role.entity ∈ classRoles := by decide
  obtain ⟨content, package, name, hcontent, hpackage, hname, -, hapart⟩ :=
    names_apart_unless_taken make_lists packageName_shop hrole
  refine ⟨content, package, name, hcontent, hpackage, hname, hapart.mpr ⟨?_, by decide⟩⟩
  rw [className_lists]
  decide

/-- The service of a table of lists imports two types that are called `List`. -/
theorem lists_service_names_clash :
    Plan.make shop .standard [lists] 100 = .ok (Plan.all shop .standard [lists]) ∧
      ∃ content, Renders shop lists .serviceInterface content ∧
        ImportsType content "java.util.List" ∧
        ImportsType content "com.acme.shop.entity.List" ∧
        simpleName "java.util.List" = simpleName "com.acme.shop.entity.List" ∧
        packageOf "java.util.List" ≠ packageOf "com.acme.shop.entity.List" := by
  have hplan : Plan.make shop .standard [lists] 100 = .ok (Plan.all shop .standard [lists]) :=
    Plan.make_eq_ok_iff.mpr ⟨by simp, by simp, by decide, by decide, rfl⟩
  obtain ⟨form, hform⟩ := exists_fits mem_tableTemplates_service
  have hregular := regular_headers _ mem_tableTemplates_service
  have hfocus := named_of_make make_lists packageName_shop
  have himports : ∀ path ∈ Focus.imports { project := shop, table := lists },
      ∃ type ∈ recordable, path = qualified type := fun path => exists_recordable
  have htypes : serviceHeader.types { project := shop, table := lists } =
      [("java.util", "List"), ("com.acme.shop.entity", "List")] := by
    decide
  have hiff : ∀ path, ImportsType (textOf form { project := shop, table := lists }) path ↔
      ∃ type ∈ serviceHeader.types { project := shop, table := lists },
        path = qualified type ∧ type.2 ≠ "*" :=
    fun path => hregular.importsType_iff hfocus himports hform.header
  have htemplate : shippedFor shop.stack .serviceInterface =
      some ("common/Service.java.ftl", Template.Shipped.Common.service) := rfl
  refine ⟨hplan, _, renders_textOf htemplate hform.isForm lists, (hiff _).mpr ?_, (hiff _).mpr ?_, ?_, ?_⟩
  · exact ⟨("java.util", "List"), by simp [htypes], rfl, by decide⟩
  · exact ⟨("com.acme.shop.entity", "List"), by simp [htypes], rfl, by decide⟩
  · decide
  · decide

end SchemaScaffold
