import SchemaScaffold.Proofs.MapperMarkup
import SchemaScaffold.Proofs.SchemaReading

namespace SchemaScaffold

/-! ### Looking the key up -/

/-- The columns in front of the first one that is flagged. -/
structure FirstKey (columns before : List Column) (key : Column) : Prop where
  splits : ∃ after, columns = before ++ key :: after
  flagged : key.isPrimaryKey
  unflagged : ∀ column ∈ before, ¬column.isPrimaryKey

theorem find?_isPrimaryKey_eq_some_iff {columns : List Column} {key : Column} :
    columns.find? (·.isPrimaryKey) = some key ↔ ∃ before, FirstKey columns before key := by
  rw [List.find?_eq_some_iff_append]
  constructor
  · rintro ⟨hkey, before, after, rfl, hbefore⟩
    exact ⟨before, ⟨after, rfl⟩, hkey, by simpa using hbefore⟩
  · rintro ⟨before, ⟨after, rfl⟩, hkey, hbefore⟩
    exact ⟨hkey, before, after, rfl, by simpa using hbefore⟩

theorem FirstKey.not_mem {columns before : List Column} {key : Column}
    (h : FirstKey columns before key) : key ∉ before :=
  fun hmem => h.unflagged key hmem h.flagged

/-- A search by name comes to a column in front of the key if one has its name. -/
theorem FirstKey.find?_name_eq_some_iff {columns before : List Column} {key : Column}
    (h : FirstKey columns before key) :
    columns.find? (·.name == key.name) = some key ↔
      ∀ column ∈ before, column.name ≠ key.name := by
  have hnot := h.not_mem
  obtain ⟨after, rfl⟩ := h.splits
  rw [List.find?_append]
  cases hfound : before.find? (·.name == key.name) with
  | none =>
      simp only [List.find?_eq_none, beq_iff_eq] at hfound
      simpa using hfound
  | some column =>
      have hmem : column ∈ before := List.mem_of_find?_eq_some hfound
      have hname : column.name = key.name := by simpa using List.find?_some hfound
      rw [Option.some_or, Option.some_inj]
      constructor
      · rintro rfl
        exact absurd hmem hnot
      · intro hbefore
        exact absurd hname (hbefore column hmem)

namespace Table

variable {rawName : String} {comment : Option String} {columns : List Column}

theorem primaryKeyColumn_of : (Table.of rawName comment columns).primaryKeyColumn =
    (columns.find? (·.isPrimaryKey)).map (·.name) := by
  simp only [of]

theorem primaryKeyType_of : (Table.of rawName comment columns).primaryKeyType =
    ((columns.find? (·.isPrimaryKey)).map (·.javaType)).getD .long := by
  simp only [of]

theorem primaryKey_of : (Table.of rawName comment columns).primaryKey =
    (columns.find? (·.isPrimaryKey)).bind fun key => columns.find? (·.name == key.name) := by
  rw [primaryKey, primaryKeyColumn_of, Option.bind_map]
  simp only [Function.comp_def, column?, of_columns]

/-- Columns of one name have one property, so the lookup never shows in the property of the key. -/
theorem map_propertyName_primaryKey_of (hbuilt : ∀ column ∈ columns, column.IsBuilt) :
    (Table.of rawName comment columns).primaryKey.map (·.propertyName) =
      (columns.find? (·.isPrimaryKey)).map (·.propertyName) := by
  have hproperty : ∀ found : Option Column, (∀ column ∈ found, column ∈ columns) →
      found.map (·.propertyName) = (found.map (·.name)).map Naming.propertyName := by
    rintro (_ | column) hfound
    · rfl
    · rw [Option.map_some, Option.map_some, Option.map_some,
        (hbuilt column (hfound column rfl)).propertyName_eq.1]
  have hlookup := hproperty (Table.of rawName comment columns).primaryKey fun column hcolumn => by
    rw [← of_columns rawName comment columns]
    exact mem_of_primaryKey hcolumn
  have hflagged := hproperty (columns.find? (·.isPrimaryKey)) fun column hcolumn =>
    List.mem_of_find?_eq_some hcolumn
  rw [hlookup, hflagged, map_name_primaryKey_of, primaryKeyColumn_of]

end Table

/-! ### The key in models -/

/-- What a record says about the key, or about there being none. -/
structure ShowsKey (record : Value) (key : Option Column) : Prop where
  column : record.field? "primaryKeyColumn" = some (.optText (key.map (·.name)))
  columnName : record.field? "primaryKeyColumnName" = some (.optText (key.map (·.name)))
  propertyName :
    record.field? "primaryKeyPropertyName" = some (.optText (key.map (·.propertyName)))
  keyType : record.field? "primaryKeyType" =
    some (.text ((key.map Column.javaType).getD .long).source)

structure ModelShowsKey (model : Value) (key : Option Column) : Prop where
  top : ShowsKey model key
  table : ∃ record, model.field? "table" = some record ∧ ShowsKey record key

theorem modelShowsKey_ofTable {rawName : String} {comment : Option String}
    {columns : List Column} {key : Option Column} (hkey : columns.find? (·.isPrimaryKey) = key)
    (hproperty : (Table.of rawName comment columns).primaryKey.map (·.propertyName) =
      key.map (·.propertyName)) (project : Project) :
    ModelShowsKey (Model.ofTable project (Table.of rawName comment columns)) key := by
  have hcolumn : (Table.of rawName comment columns).primaryKeyColumn = key.map (·.name) := by
    rw [Table.primaryKeyColumn_of, hkey]
  have hname : (Table.of rawName comment columns).primaryKey.map (·.name) = key.map (·.name) := by
    rw [Table.map_name_primaryKey_of, hcolumn]
  have htype : (Table.of rawName comment columns).primaryKeyType =
      (key.map (·.javaType)).getD .long := by
    rw [Table.primaryKeyType_of, hkey]
  refine ⟨⟨?_, ?_, ?_, ?_⟩, _, rfl, ⟨?_, ?_, ?_, ?_⟩⟩
  -- the fields of the table, at the top level and then in its own record
  · rw [← hcolumn]; rfl
  · rw [← hname]; rfl
  · rw [← hproperty]; rfl
  · rw [← htype]; rfl
  · rw [← hcolumn]; rfl
  · rw [← hname]; rfl
  · rw [← hproperty]; rfl
  · rw [← htype]; rfl

/-- The name and the type that a table records, and what a model says about the key, are those of
the first column that is flagged. The column that is looked up is that one exactly when none in
front of it has its name. -/
theorem key_of_table {rawName : String} {comment : Option String} {columns : List Column}
    {table : Table} (htable : Table.make rawName comment columns = .ok table) :
    (∀ before key, FirstKey columns before key →
      table.primaryKeyColumn = some key.name ∧ table.primaryKeyType = key.javaType ∧
      (table.primaryKey = some key ↔ ∀ column ∈ before, column.name ≠ key.name) ∧
      (table.primaryKey = some key ∨ (∀ column ∈ columns, column.IsBuilt) →
        ∀ project, ModelShowsKey (Model.ofTable project table) (some key))) ∧
    ((∀ column ∈ columns, ¬column.isPrimaryKey) →
      table.primaryKey = none ∧ table.primaryKeyColumn = none ∧ table.primaryKeyType = .long ∧
      ∀ project, ModelShowsKey (Model.ofTable project table) none) := by
  obtain ⟨-, rfl⟩ := (Table.make_eq_ok_iff _ _ _ _).mp htable
  constructor
  · intro before key hfirst
    have hkey := find?_isPrimaryKey_eq_some_iff.mpr ⟨before, hfirst⟩
    refine ⟨?_, ?_, ?_, ?_⟩
    · rw [Table.primaryKeyColumn_of, hkey, Option.map_some]
    · rw [Table.primaryKeyType_of, hkey, Option.map_some, Option.getD_some]
    · rw [Table.primaryKey_of, hkey, Option.bind_some, hfirst.find?_name_eq_some_iff]
    · rintro (hlookup | hbuilt)
      · exact modelShowsKey_ofTable hkey (by rw [hlookup])
      · exact modelShowsKey_ofTable hkey (by rw [Table.map_propertyName_primaryKey_of hbuilt, hkey])
  · intro hunflagged
    have hkey : columns.find? (·.isPrimaryKey) = none := List.find?_eq_none.mpr hunflagged
    have hlookup : (Table.of rawName comment columns).primaryKey = none := by
      rw [Table.primaryKey_of, hkey, Option.bind_none]
    refine ⟨hlookup, ?_, ?_, ?_⟩
    · rw [Table.primaryKeyColumn_of, hkey, Option.map_none]
    · rw [Table.primaryKeyType_of, hkey, Option.map_none, Option.getD_none]
    · exact modelShowsKey_ofTable hkey (by rw [hlookup])

/-- The key stands behind two columns, and one more column is flagged behind it. -/
theorem key_of_table_orders :
    let before := textColumns ["number", "note"]
    let columns := before ++ keyColumn :: [{ keyColumn with name := "number" }]
    let orders := Table.of "orders" none columns
    Table.make "orders" none columns = .ok orders ∧ FirstKey columns before keyColumn ∧
      orders.primaryKey = some keyColumn ∧
      ∀ project, ModelShowsKey (Model.ofTable project orders) (some keyColumn) := by
  intro before columns orders
  have htable : Table.make "orders" none columns = .ok orders :=
    (Table.make_eq_ok_iff _ _ _ _).mpr ⟨by decide, rfl⟩
  have hfirst : FirstKey columns before keyColumn := ⟨⟨_, rfl⟩, by decide, by decide⟩
  obtain ⟨-, -, hlookup, hmodel⟩ := (key_of_table htable).1 before keyColumn hfirst
  have hkey : orders.primaryKey = some keyColumn := hlookup.mpr (by decide)
  exact ⟨htable, hfirst, hkey, hmodel (.inl hkey)⟩

def hiddenKeyScript : String := "CREATE TABLE t (id varchar(36), `id` bigint PRIMARY KEY)"

set_option synthInstance.maxSize 256 in
/-- Two columns of one name: the second is the key, and the first is found for it. -/
theorem key_of_table_hidden :
    ∃ table front key, Schema.parse .mysql hiddenKeyScript = .ok [table] ∧
      FirstKey table.columns [front] key ∧ table.primaryKeyType = .long ∧
      table.primaryKey = some front ∧ front.javaType = .string ∧ table.primaryKey ≠ some key := by
  have hstatements : Script.statements hiddenKeyScript = [hiddenKeyScript] := by decide +kernel
  have hparse : (Schema.parse .mysql hiddenKeyScript).toOption.map (·.map fun table =>
      (table.columns.map fun column => (column.name, column.javaType, column.isPrimaryKey),
        table.primaryKeyColumn, table.primaryKeyType)) =
          some [([("id", .string, false), ("id", .long, true)], some "id", .long)] := by
    simp only [Schema.parse, Schema.parseWith, Text.isBlankText_eq, Schema.readScript, hstatements]
    decide +kernel
  obtain ⟨table, htable, hview⟩ := Schema.exists_parse_of_map hparse
  obtain ⟨hcolumns, hrecorded, htype⟩ := by simpa only [Prod.mk.injEq] using hview
  obtain ⟨front, others, hcolumns', hfront, hothers⟩ := List.map_eq_cons_iff.mp hcolumns
  obtain ⟨key, rfl, hkey⟩ := List.map_eq_singleton_iff.mp hothers
  simp only [Prod.mk.injEq] at hfront hkey
  obtain ⟨hname, hjava, hunflagged⟩ := hfront
  have hlookup : table.primaryKey = some front := by
    rw [Table.primaryKey, hrecorded, Option.bind_some, Table.column?, hcolumns']
    exact List.find?_cons_of_pos (by rw [hname]; rfl)
  refine ⟨table, front, key, htable, ⟨⟨[], hcolumns'⟩, hkey.2.2, ?_⟩, htype, hlookup, hjava, ?_⟩
  · simp [hunflagged]
  · rw [hlookup, ne_eq, Option.some_inj]
    rintro rfl
    simp [hunflagged] at hkey

end SchemaScaffold
