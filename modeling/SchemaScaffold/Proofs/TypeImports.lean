import SchemaScaffold.Proofs.Form.TableTemplates
import SchemaScaffold.Proofs.PackageNames
import SchemaScaffold.Proofs.Tables

namespace SchemaScaffold

open Form

/-- The shipped template of a role prints this for a table, and uses these types in it. -/
def Printed (project : Project) (table : Table) (role : Role) (content : String)
    (types : List JavaType) : Prop :=
  ∃ template source form,
    Selector.standard.resolve role project.stack = some template ∧
      Template.shipped.lookup template = some source ∧
        ofChars? .ofTable source.toList = some form ∧
          shippedRenderer (Model.ofTable project table) template = .ok content ∧
            content = textOf form { project, table } ∧ types = typesOf form { project, table }

def ImportsAll (content : String) (types : List JavaType) : Prop :=
  ∀ type ∈ types, ∀ path, type.importPath = some path → Imports content path

section

variable {project : Project} {table : Table} {role : Role}

theorem printed_of_form {template : TemplateId × List String} {form : List Piece}
    (htemplate : shippedFor project.stack role = some template)
    (hform : ofChars? .ofTable (Template.charsOfLines template.2) = some form) :
    Printed project table role (textOf form { project, table })
      (typesOf form { project, table }) := by
  refine ⟨template.1, Template.ofLines template.2, form, ?_, lookup_shipped htemplate, ?_, ?_, rfl,
    rfl⟩
  · rw [resolve_standard, htemplate, Option.map_some]
  · rw [Template.toList_ofLines]
    exact hform
  · exact shippedRenderer_eq_textOf htemplate hform { project, table }

theorem exists_printed (hrole : role ∈ classRoles) :
    ∃ form, (typeUse project.stack role).check form ∧
      Printed project table role (textOf form { project, table })
        (typesOf form { project, table }) := by
  obtain ⟨template, htemplate, hentry⟩ := exists_typedTemplate hrole project.stack
  obtain ⟨form, hform, hcheck⟩ := hasForm_typeUse _ hentry
  exact ⟨form, hcheck, printed_of_form htemplate hform⟩

theorem importsAll_of_columns {form : List Piece} {focus : Focus}
    (hform : TypeUse.ofColumns.check form) (hline : focus.InLine)
    (hcolumns : ∀ column ∈ focus.table.columns, ∀ path,
      column.javaType.importPath = some path → path ∈ focus.imports)
    (himports : ∀ path ∈ focus.imports, '\n' ∉ path.toList) :
    ImportsAll (textOf form focus) (typesOf form focus) := by
  intro type htype path hpath
  rw [TypeUse.check, Bool.and_eq_true] at hform
  rcases comes_of_mem_typesOf hform.1 htype with
    ⟨datum, hdatum, -⟩ | ⟨datum, hdatum, column, hcolumn, htype⟩
  · cases hdatum
  · obtain rfl := List.mem_singleton.mp hdatum
    obtain rfl := Option.some.inj htype
    exact imports_of_opensWithImports hform.2 hline himports (hcolumns column hcolumn path hpath)

theorem importsAll_of_key_iff {form : List Piece} {focus : Focus}
    (hform : TypeUse.ofKey.check form) (hline : focus.InLine) :
    ImportsAll (textOf form focus) (typesOf form focus) ↔
      focus.table.primaryKeyType.importPath = none := by
  rw [TypeUse.check, Bool.and_eq_true, Bool.and_eq_true, List.all_eq_true] at hform
  obtain ⟨⟨hwithin, hprints⟩, hlacks⟩ := hform
  constructor
  · intro hall
    rw [Option.eq_none_iff_forall_ne_some]
    intro path hpath
    have himports := hall _ (primaryKeyType_mem_typesOf hprints focus) path hpath
    rw [Imports, toList_textOf] at himports
    have hlacked := hlacks path (List.mem_filterMap.mpr ⟨_, JavaType.mem_all _, hpath⟩)
    exact not_mem_headerLines (importLine_ne_nil path) hlacked hline himports
  · intro hnone type htype path hpath
    rcases comes_of_mem_typesOf hwithin htype with
      ⟨datum, hdatum, htype⟩ | ⟨datum, hdatum, -⟩
    · obtain rfl := List.mem_singleton.mp hdatum
      obtain rfl := Option.some.inj htype
      rw [hnone] at hpath
      cases hpath
    · cases hdatum

theorem importsAll_of_nothing {form : List Piece} {focus : Focus}
    (hform : TypeUse.ofNothing.check form) : ImportsAll (textOf form focus) (typesOf form focus) := by
  intro type htype
  rcases comes_of_mem_typesOf hform htype with ⟨datum, hdatum, -⟩ | ⟨datum, hdatum, -⟩ <;>
    cases hdatum

/-- The imports of a table hold the imports of its columns, and no line ends. -/
theorem mem_imports_of_column (rawName : String) (comment : Option String) {columns : List Column}
    {column : Column} (hcolumn : column ∈ columns) {path : String}
    (hpath : column.javaType.importPath = some path) (stack : Stack) :
    path ∈ Model.imports stack (Table.of rawName comment columns) := by
  have hmem := (Table.mem_of_imports rawName comment columns).mpr ⟨column, hcolumn, hpath⟩
  exact mem_sortedSet.mpr (List.mem_append_left _ hmem)

theorem not_mem_of_mem_imports {rawName : String} {comment : Option String} {columns : List Column}
    {stack : Stack} {path : String}
    (h : path ∈ Model.imports stack (Table.of rawName comment columns)) : '\n' ∉ path.toList := by
  rw [Model.imports, mem_sortedSet, List.mem_append] at h
  rcases h with h | h
  · obtain ⟨column, -, hpath⟩ := (Table.mem_of_imports rawName comment columns).mp h
    exact JavaType.not_mem_importPath hpath
  · have hpath : path = Model.apiDocImport ∨ path = Model.notNullImport ∨
        path = Model.sizeImport := by
      unfold Model.featureImports at h
      grind
    rcases hpath with rfl | rfl | rfl <;> decide

/-- The Java file of a role imports all types that it uses unless it uses a key of a type that must
be imported. -/
theorem used_types_imported_iff {rawName : String} {comment : Option String}
    {columns : List Column} (htable : Table.make rawName comment columns = .ok table)
    (hpackage : Validation.packageName project.packageName = .ok ())
    (hrole : role ∈ classRoles) :
    ∃ content types, Printed project table role content types ∧
      (ImportsAll content types ↔
        role = .entity ∨ (role = .dataAccess ∧ project.stack.orm = .mybatisPlus) ∨
          table.primaryKeyType.importPath = none) := by
  obtain ⟨-, rfl⟩ := (Table.make_eq_ok_iff _ _ _ _).mp htable
  obtain ⟨form, hcheck, hprinted⟩ := exists_printed hrole
  refine ⟨_, _, hprinted, ?_⟩
  have hline : Focus.InLine { project, table := Table.of rawName comment columns } := by
    constructor
    · intro hmem
      have hblank := Validation.not_isBlank_of_packageName hpackage hmem
      revert hblank
      decide
    · rw [Table.of_className, Naming.typeName, String.toList_ofList]
      exact Naming.not_mem_typeNameList (by decide)
  rw [← typeUse_eq_ofColumns_iff, ← typeUse_eq_ofNothing_iff]
  cases huse : typeUse project.stack role with
  | ofColumns =>
      rw [huse] at hcheck
      simp only [true_or, iff_true]
      refine importsAll_of_columns hcheck hline ?_ fun path => not_mem_of_mem_imports
      intro column hcolumn path hpath
      rw [Table.of_columns] at hcolumn
      exact mem_imports_of_column rawName comment hcolumn hpath project.stack
  | ofKey =>
      rw [huse] at hcheck
      simp only [reduceCtorEq, false_or]
      exact importsAll_of_key_iff hcheck hline
  | ofNothing =>
      rw [huse] at hcheck
      simp only [true_or, or_true, iff_true]
      exact importsAll_of_nothing hcheck

end

def priceColumn : Column :=
  ColumnDraft.column { name := "amount", baseType := "decimal", isPrimaryKey := true }

def prices : Table := Table.of "price_list" none [priceColumn]

theorem make_prices : Table.make "price_list" none [priceColumn] = .ok prices :=
  (Table.make_eq_ok_iff _ _ _ _).mpr ⟨by decide, rfl⟩

theorem used_types_imported_prices_entity :
    ∃ content types, Printed shop prices .entity content types ∧ ImportsAll content types := by
  have hrole : Role.entity ∈ classRoles := by decide
  obtain ⟨content, types, hprinted, himports⟩ :=
    used_types_imported_iff make_prices packageName_shop hrole
  exact ⟨content, types, hprinted, himports.mpr (.inl rfl)⟩

/-- The service of a table with a decimal key uses the type of the key without its import. -/
theorem prices_service_not_imported :
    ∃ content types, Printed shop prices .serviceInterface content types ∧
      JavaType.bigDecimal ∈ types ∧ JavaType.bigDecimal.importPath = some "java.math.BigDecimal" ∧
        importLine "java.math.BigDecimal" ∉ Text.fields '\n' content.toList := by
  have hform : HasForm .ofTable Template.Shipped.Common.service fun form =>
      (typesOf form { project := shop, table := prices }).contains .bigDecimal
        && !(Text.fields '\n' (charsOf form { project := shop, table := prices })).contains
          (importLine "java.math.BigDecimal") := by
    apply Spelled.hasForm
    · simp only [Template.Shipped.Common.service]
      repeat first | exact .last _ | apply Spelled.line
    · decide +kernel
  obtain ⟨form, hform, hcheck⟩ := hform
  rw [Bool.and_eq_true, List.contains_iff_mem, Bool.not_eq_true', ← Bool.not_eq_true,
    List.contains_iff_mem] at hcheck
  exact ⟨_, _, printed_of_form rfl hform, hcheck.1, rfl, (toList_textOf _ _).symm ▸ hcheck.2⟩

end SchemaScaffold
