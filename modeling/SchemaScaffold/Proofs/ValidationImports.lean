import SchemaScaffold.Proofs.EntityBlocks
import SchemaScaffold.Proofs.NameClashes
import SchemaScaffold.Proofs.SchemaReading

namespace SchemaScaffold

open Form

def Column.HoldsTextsUpTo (bound : Nat) (column : Column) : Prop :=
  ¬column.isPrimaryKey ∧ column.javaType = .string ∧ column.maxLength = some bound

instance (bound : Nat) (column : Column) : Decidable (column.HoldsTextsUpTo bound) :=
  inferInstanceAs (Decidable (_ ∧ _))

/-! ### Imports -/

def boundImports : List String := [Model.notNullImport, Model.sizeImport]

section

variable {project : Project} {rawName : String} {comment : Option String} {columns : List Column}
  {table : Table}

/-- The entity imports the types of its header, the recorded ones among them, and nothing else. -/
theorem imports_entity_iff (hpackage : Validation.packageName project.packageName = .ok ())
    (htable : Table.make rawName comment columns = .ok table) (path : String) :
    Imports (Entity.print project table) path ↔
      path ∈ (entityHeader project.stack.orm).paths { project, table } := by
  have hfocus := named_of_make htable hpackage
  have himports : ∀ path ∈ Focus.imports { project, table },
      ∃ type ∈ recordable, path = qualified type := by
    obtain ⟨-, rfl⟩ := (Table.make_eq_ok_iff _ _ _ _).mp htable
    exact fun path => exists_recordable
  have hmem := mem_tableTemplates_entity project.stack.orm
  obtain ⟨form, hform⟩ := exists_fits hmem
  have htext : Entity.print project table = textOf form { project, table } :=
    (renders_entity project table).unique
      (renders_textOf (shippedFor_entity project.stack) hform.isForm table)
  have hlines := Header.headerLines_eq hform.header fun line =>
    (regular_headers _ hmem).isHeaderLine_of_mem hfocus himports
  rw [Imports, htext, hlines]
  exact Header.importLine_mem_iff

/-- The header names no annotation for bounds, so the entity imports one exactly if its model
does. -/
theorem imports_entity_bound_iff (hpackage : Validation.packageName project.packageName = .ok ())
    (htable : Table.make rawName comment columns = .ok table) {path : String}
    (hpath : path ∈ boundImports) :
    Imports (Entity.print project table) path ↔ path ∈ Model.imports project.stack table := by
  have hnamed : ∀ path ∈ boundImports,
      path ∉ ["lombok.Data", "com.baomidou.mybatisplus.annotation.IdType",
        "com.baomidou.mybatisplus.annotation.TableId",
        "com.baomidou.mybatisplus.annotation.TableName", "jakarta.persistence.Column",
        "jakarta.persistence.Entity", "jakarta.persistence.GeneratedValue",
        "jakarta.persistence.GenerationType", "jakarta.persistence.Id",
        "jakarta.persistence.Table"] := by decide
  have hother := hnamed path hpath
  rw [imports_entity_iff hpackage htable, Header.paths]
  cases project.stack.orm <;> cases hlombok : project.stack.lombokAccessors <;>
    simp_all [entityHeader, HeaderItem.paths, qualified, Focus.imports]

end

section

variable (stack : Stack) (rawName : String) (comment : Option String) (columns : List Column)

theorem bound_not_mem_imports_of {path : String}
    (hpath : path ∈ boundImports) :
    path ∉ (Table.of rawName comment columns).imports := by
  intro hmem
  obtain ⟨column, -, himport⟩ := (Table.mem_of_imports rawName comment columns).mp hmem
  have hother : ∀ type ∈ JavaType.all, ∀ path ∈ boundImports,
      type.importPath ≠ some path := by decide
  exact hother _ (JavaType.mem_all _) path hpath himport

theorem notNullImport_mem_imports_iff :
    Model.notNullImport ∈ Model.imports stack (Table.of rawName comment columns) ↔
      stack.validation ∧ ∃ column ∈ columns, ¬column.isPrimaryKey ∧ ¬column.nullable := by
  have hbound : Model.notNullImport ∈ boundImports := by decide
  have hnot := bound_not_mem_imports_of rawName comment columns hbound
  have hdocs : Model.notNullImport ≠ Model.apiDocImport := by decide
  have hsize : Model.notNullImport ≠ Model.sizeImport := by decide
  rw [Model.imports, mem_sortedSet, List.mem_append, or_iff_right hnot, Model.featureImports]
  simp [hdocs, hsize, Column.needsNotNull]

theorem sizeImport_mem_imports_iff :
    Model.sizeImport ∈ Model.imports stack (Table.of rawName comment columns) ↔
      stack.validation ∧ ∃ column ∈ columns, ∃ bound, column.HoldsTextsUpTo bound := by
  have hbound : Model.sizeImport ∈ boundImports := by decide
  have hnot := bound_not_mem_imports_of rawName comment columns hbound
  have hdocs : Model.sizeImport ≠ Model.apiDocImport := by decide
  have hnotNull : Model.sizeImport ≠ Model.notNullImport := by decide
  rw [Model.imports, mem_sortedSet, List.mem_append, or_iff_right hnot, Model.featureImports]
  simp [hdocs, hnotNull, Column.needsSize, Column.HoldsTextsUpTo, Option.isSome_iff_exists,
    and_comm]

end

/-! ### Annotations -/

namespace Entity

def Annotates (stack : Stack) (columns : List Column) (name : String) : Prop :=
  ∃ column ∈ columns, ∃ line ∈ fieldLines stack column,
    ("    " ++ name).toList <+: line.toList

section

variable (stack : Stack) (column : Column)

/-- A line of an annotation for bounds stands among the lines for bounds. -/
theorem exists_line_iff {start : String} (hstart : start = "    @NotNull" ∨ start = "    @Size(") :
    (∃ line ∈ fieldLines stack column, start.toList <+: line.toList) ↔
      stack.validation ∧ ¬column.isPrimaryKey ∧
        ∃ line ∈ boundLines column, start.toList <+: line.toList := by
  have hbound : ∀ line : String, start.toList <+: line.toList → isBound line := by
    intro line hline
    rw [isBound, Bool.or_eq_true, List.isPrefixOf_iff_prefix, List.isPrefixOf_iff_prefix]
    rcases hstart with rfl | rfl
    · exact .inl hline
    · exact .inr hline
  have hmem : ∀ line : String, start.toList <+: line.toList → (line ∈ fieldLines stack column ↔
      line ∈ if stack.validation && !column.isPrimaryKey then boundLines column else []) := by
    intro line hline
    rw [← filter_isBound_fieldLines, List.mem_filter, and_iff_left (hbound line hline)]
  rw [exists_congr fun line => and_congr_left (hmem line)]
  cases stack.validation <;> cases column.isPrimaryKey <;> simp

theorem exists_boundLine_iff (p : String → Prop) : (∃ line ∈ boundLines column, p line) ↔
    (¬column.nullable ∧ p "    @NotNull") ∨
      column.javaType = .string ∧ ∃ bound, bound ≠ 0 ∧ column.maxLength = some bound ∧
        p (String.join ["    @Size(max = ", toString bound, ")"]) := by
  simp only [boundLines, List.mem_append, or_and_right, exists_or]
  apply or_congr
  · cases column.nullable <;> simp
  · cases column.maxLength with
    | none => simp
    | some bound =>
        simp only [Option.some_inj]
        split <;> rename_i hbound
        · simp [hbound]
        · grind

theorem exists_notNull_iff :
    (∃ line ∈ boundLines column, "    @NotNull".toList <+: line.toList) ↔ ¬column.nullable := by
  simp [exists_boundLine_iff]

theorem exists_size_iff :
    (∃ line ∈ boundLines column, "    @Size(".toList <+: line.toList) ↔
      column.javaType = .string ∧ ∃ bound, bound ≠ 0 ∧ column.maxLength = some bound := by
  simp [exists_boundLine_iff]

end

variable (stack : Stack) (columns : List Column)

theorem annotates_notNull_iff : Annotates stack columns "@NotNull" ↔
    stack.validation ∧ ∃ column ∈ columns, ¬column.isPrimaryKey ∧ ¬column.nullable := by
  have hstart : "    " ++ "@NotNull" = "    @NotNull" := by decide
  simp only [Annotates, hstart, exists_line_iff _ _ (.inl rfl), exists_notNull_iff]
  grind

theorem annotates_size_iff : Annotates stack columns "@Size(" ↔
    stack.validation ∧
      ∃ column ∈ columns, ∃ bound, bound ≠ 0 ∧ column.HoldsTextsUpTo bound := by
  have hstart : "    " ++ "@Size(" = "    @Size(" := by decide
  simp only [Annotates, hstart, exists_line_iff _ _ (.inr rfl), exists_size_iff,
    Column.HoldsTextsUpTo]
  grind

end Entity

/-! ### Where the two differ -/

/-- The entity imports the annotation against null exactly when a field has it. It imports the one
for sizes whenever a field has it, and also for nothing if there are texts of known length, all of
which must be empty. -/
theorem bound_imports_of_entity {project : Project} {rawName : String} {comment : Option String}
    {columns : List Column} {table : Table}
    (hpackage : Validation.packageName project.packageName = .ok ())
    (htable : Table.make rawName comment columns = .ok table) :
    let content := Entity.print project table
    Renders project table .entity content ∧
      (Imports content Model.notNullImport ↔
        Entity.Annotates project.stack columns "@NotNull") ∧
      (Entity.Annotates project.stack columns "@Size(" → Imports content Model.sizeImport) ∧
      ((Imports content Model.sizeImport ↔ Entity.Annotates project.stack columns "@Size(") ↔
        (project.stack.validation → (∃ column ∈ columns, column.HoldsTextsUpTo 0) →
          ∃ column ∈ columns, ∃ bound, bound ≠ 0 ∧ column.HoldsTextsUpTo bound)) := by
  intro content
  have hbounds : Model.notNullImport ∈ boundImports ∧ Model.sizeImport ∈ boundImports := by decide
  have hnotNull := imports_entity_bound_iff hpackage htable hbounds.1
  have hsize := imports_entity_bound_iff hpackage htable hbounds.2
  obtain ⟨-, rfl⟩ := (Table.make_eq_ok_iff _ _ _ _).mp htable
  have hcases : (∃ column ∈ columns, ∃ bound, column.HoldsTextsUpTo bound) ↔
      (∃ column ∈ columns, column.HoldsTextsUpTo 0) ∨
        ∃ column ∈ columns, ∃ bound, bound ≠ 0 ∧ column.HoldsTextsUpTo bound := by
    grind
  refine ⟨renders_entity project _, ?_, ?_, ?_⟩
  · rw [hnotNull, notNullImport_mem_imports_iff, Entity.annotates_notNull_iff]
  · rw [hsize, sizeImport_mem_imports_iff, Entity.annotates_size_iff, hcases]
    exact fun ⟨hstack, h⟩ => ⟨hstack, .inr h⟩
  · rw [hsize, sizeImport_mem_imports_iff, Entity.annotates_size_iff, hcases,
      and_congr_right_iff, or_iff_right_iff_imp]

def couponColumns : List Column :=
  [keyColumn,
    ColumnDraft.column
      { name := "code", baseType := "varchar", length := some "8", nullable := false },
    ColumnDraft.column { name := "note", baseType := "varchar", length := some "0" }]

theorem bound_imports_of_entity_coupons :
    let coupons := Table.of "coupon" none couponColumns
    Validation.packageName shop.packageName = .ok () ∧
      Table.make "coupon" none couponColumns = .ok coupons ∧
      Imports (Entity.print shop coupons) Model.notNullImport ∧
      Imports (Entity.print shop coupons) Model.sizeImport ∧
      Entity.Annotates shop.stack couponColumns "@Size(" := by
  intro coupons
  have htable : Table.make "coupon" none couponColumns = .ok coupons :=
    (Table.make_eq_ok_iff _ _ _ _).mpr ⟨by decide, rfl⟩
  obtain ⟨-, hnotNull, himports, -⟩ := bound_imports_of_entity packageName_shop htable
  have hannotates : Entity.Annotates shop.stack couponColumns "@Size(" :=
    (Entity.annotates_size_iff _ _).mpr ⟨rfl, _, .tail _ (.head _), 8, by decide, by decide +kernel⟩
  refine ⟨packageName_shop, htable, ?_, himports hannotates, hannotates⟩
  rw [hnotNull, Entity.annotates_notNull_iff]
  exact ⟨rfl, _, .tail _ (.head _), by decide, by decide⟩

def emptyCodeScript : String := "CREATE TABLE t (id bigint PRIMARY KEY, code varchar(0))"

/-- A code that can only be empty makes the entity import an annotation that it does not use. -/
theorem empty_code_not_annotated :
    ∃ table, Schema.parse .mysql emptyCodeScript = .ok [table] ∧
      Renders shop table .entity (Entity.print shop table) ∧
      Imports (Entity.print shop table) Model.sizeImport ∧
      ¬Entity.Annotates shop.stack table.columns "@Size(" := by
  have hstatements : Script.statements emptyCodeScript = [emptyCodeScript] := by decide +kernel
  have hparse : (Schema.parse .mysql emptyCodeScript).toOption.map (·.map fun table =>
      table.columns.map fun column => (column.isPrimaryKey, column.javaType, column.maxLength)) =
        some [[(true, .long, none), (false, .string, some 0)]] := by
    simp only [Schema.parse, Schema.parseWith, Text.isBlankText_eq, Schema.readScript, hstatements]
    decide +kernel
  obtain ⟨table, hparsed, hcolumns⟩ := Schema.exists_parse_of_map hparse
  obtain ⟨key, others, hcolumns, hkey, hothers⟩ := List.map_eq_cons_iff.mp hcolumns
  obtain ⟨code, rfl, hcode⟩ := List.map_eq_singleton_iff.mp hothers
  simp only [Prod.mk.injEq] at hkey hcode
  obtain ⟨rawName, comment, columns, htable, -⟩ :=
    Schema.exists_make_of_mem hparsed (List.mem_singleton_self table)
  refine ⟨table, hparsed, renders_entity shop table, ?_, ?_⟩
  · rw [imports_entity_bound_iff packageName_shop htable (by decide : _ ∈ boundImports)]
    obtain ⟨-, rfl⟩ := (Table.make_eq_ok_iff _ _ _ _).mp htable
    rw [Table.of_columns] at hcolumns
    rw [sizeImport_mem_imports_iff]
    refine ⟨rfl, code, by simp [hcolumns], 0, ?_⟩
    simp [Column.HoldsTextsUpTo, hcode]
  · rw [hcolumns, Entity.annotates_size_iff]
    simp [Column.HoldsTextsUpTo, hkey, hcode]

end SchemaScaffold
