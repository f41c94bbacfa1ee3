import SchemaScaffold.Proofs.Names
import SchemaScaffold.Table

namespace SchemaScaffold

def ColumnDraft.column (draft : ColumnDraft) : Column :=
  let base := Text.lower (Text.trim draft.baseType)
  { name := Naming.stripQuotes draft.name
    propertyName := Naming.propertyName draft.name
    rawType := match draft.length with
      | some length => base ++ "(" ++ length ++ ")"
      | none => base
    javaType := JavaType.ofColumnType base
    length := draft.length
    maxLength := draft.length.bind ColumnDraft.maxLength?
    nullable := draft.nullable
    isPrimaryKey := draft.isPrimaryKey
    defaultValue := draft.defaultValue
    comment := draft.comment }

@[simp]
theorem ColumnDraft.column_name (draft : ColumnDraft) :
    draft.column.name = Naming.stripQuotes draft.name := by simp only [column]

@[simp]
theorem ColumnDraft.column_propertyName (draft : ColumnDraft) :
    draft.column.propertyName = Naming.propertyName draft.name := by simp only [column]

@[simp]
theorem ColumnDraft.column_javaType (draft : ColumnDraft) :
    draft.column.javaType = JavaType.ofColumnType (Text.lower (Text.trim draft.baseType)) := by
  simp only [column]

@[simp]
theorem ColumnDraft.column_isPrimaryKey (draft : ColumnDraft) :
    draft.column.isPrimaryKey = draft.isPrimaryKey := by simp only [column]

theorem ColumnDraft.build_eq (draft : ColumnDraft) :
    draft.build =
      if Naming.propertyName draft.name = "" then .error (.schema (.columnName draft.name))
      else .ok draft.column := by
  simp only [build, Naming.propertyName_stripQuotes, String.isEmpty_iff]
  rfl

theorem ColumnDraft.build_eq_ok_iff (draft : ColumnDraft) (column : Column) :
    draft.build = .ok column ↔ Naming.propertyName draft.name ≠ "" ∧ column = draft.column := by
  rw [build_eq]
  split <;> rename_i hname
  · simp [hname]
  · simp [hname, eq_comm]

def keyColumn : Column :=
  ColumnDraft.column { name := "id", baseType := "bigint", isPrimaryKey := true }

def Table.of (rawName : String) (comment : Option String) (columns : List Column) : Table :=
  let key := columns.find? (·.isPrimaryKey)
  { name := Naming.stripQuotes rawName
    className := Naming.typeName rawName
    columns
    comment := Text.withoutApostrophes (comment.getD "")
    primaryKeyType := (key.map (·.javaType)).getD .long
    primaryKeyColumn := key.map (·.name)
    imports := sortedSet (columns.filterMap Column.requiredImport) }

@[simp]
theorem Table.of_name (rawName : String) (comment : Option String) (columns : List Column) :
    (Table.of rawName comment columns).name = Naming.stripQuotes rawName := by simp only [of]

@[simp]
theorem Table.of_className (rawName : String) (comment : Option String) (columns : List Column) :
    (Table.of rawName comment columns).className = Naming.typeName rawName := by simp only [of]

@[simp]
theorem Table.of_columns (rawName : String) (comment : Option String) (columns : List Column) :
    (Table.of rawName comment columns).columns = columns := by simp only [of]

theorem Text.withoutApostrophes_eq {s : String} (h : '\'' ∉ s.toList) :
    withoutApostrophes s = s := by
  have hkeep : s.toList.filter (fun c => !(c == '\'')) = s.toList := by
    rw [List.filter_eq_self]
    rintro c hc
    rw [Bool.not_eq_true', beq_eq_false_iff_ne]
    rintro rfl
    exact h hc
  rw [withoutApostrophes, without, hkeep, String.ofList_toList]

theorem Table.of_comment {comment : String} (h : '\'' ∉ comment.toList) (rawName : String)
    (columns : List Column) : (Table.of rawName (some comment) columns).comment = comment := by
  simp only [of, Option.getD_some, Text.withoutApostrophes_eq h]

theorem Table.make_eq (rawName : String) (comment : Option String) (columns : List Column) :
    Table.make rawName comment columns =
      if Naming.typeName rawName = "" then
        .error (.schema (.tableName (Naming.stripQuotes rawName)))
      else .ok (Table.of rawName comment columns) := by
  simp only [make, Naming.typeName_stripQuotes, String.isEmpty_iff]
  rfl

theorem Table.make_eq_ok_iff (rawName : String) (comment : Option String) (columns : List Column)
    (table : Table) :
    Table.make rawName comment columns = .ok table ↔
      Naming.typeName rawName ≠ "" ∧ table = Table.of rawName comment columns := by
  rw [make_eq]
  split <;> rename_i hname
  · simp [hname]
  · simp [hname, eq_comm]

theorem Table.make_eq_error_iff (rawName : String) (comment : Option String)
    (columns : List Column) (error : Error) :
    Table.make rawName comment columns = .error error ↔
      Naming.typeName rawName = "" ∧
        error = .schema (.tableName (Naming.stripQuotes rawName)) := by
  rw [make_eq]
  split <;> rename_i hname
  · simp [hname, eq_comm]
  · simp [hname]

/-! ## Imports -/

theorem mem_insertSorted {s t : String} {texts : List String} :
    s ∈ insertSorted t texts ↔ s = t ∨ s ∈ texts := by
  induction texts with
  | nil => simp [insertSorted]
  | cons first rest ih =>
      unfold insertSorted
      split
      · simp
      · split <;> rename_i heq
        · obtain rfl := beq_iff_eq.mp heq
          simp
        · simp only [List.mem_cons, ih]
          exact or_left_comm

theorem mem_sortedSet {s : String} {texts : List String} : s ∈ sortedSet texts ↔ s ∈ texts := by
  induction texts with
  | nil => simp [sortedSet]
  | cons first rest ih => rw [sortedSet, List.foldr_cons, mem_insertSorted, ← sortedSet, ih,
      List.mem_cons]

theorem Table.mem_of_imports (rawName : String) (comment : Option String) (columns : List Column)
    {path : String} : path ∈ (Table.of rawName comment columns).imports ↔
      ∃ column ∈ columns, column.javaType.importPath = some path := by
  simp only [of, mem_sortedSet, List.mem_filterMap, Column.requiredImport]

theorem JavaType.mem_all (type : JavaType) : type ∈ all := by
  cases type <;> decide

theorem JavaType.not_mem_importPath {type : JavaType} {path : String} (h : type.importPath = some path) :
    '\n' ∉ path.toList := by
  cases type <;> simp_all [JavaType.importPath] <;> subst h <;> decide

end SchemaScaffold
