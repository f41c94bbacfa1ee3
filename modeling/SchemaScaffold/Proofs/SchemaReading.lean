import SchemaScaffold.Proofs.Tables
import SchemaScaffold.Proofs.Traversal
import SchemaScaffold.Schema

/-!
# What a script is read as

A script is read for the statements that its texts hold, whatever reads the texts. The tables are
those of the definitions among them, one for one and in order; the failures are listed in the order
in which they take precedence.
-/

namespace SchemaScaffold.Schema

open Sql (Statement CreateTable ColumnDef)

def parsedIn (read : StatementReader) (text : String) : List (Statement × String) :=
  match read text with
  | .ok statements => statements.map (·, text)
  | .error _ => []

def parsed (read : StatementReader) (script : String) : List (Statement × String) :=
  (Script.statements script).flatMap (parsedIn read)

def definition? : Statement × String → Option (CreateTable × String)
  | (.createTable create, text) => some (create, text)
  | _ => none

def commentOf : Statement × String → List LateComment
  | (.comment target name (some text), _) => (lateComment? target name text).toList
  | _ => []

def definitions (read : StatementReader) (script : String) : List (CreateTable × String) :=
  (parsed read script).filterMap definition?

def rejection? (read : StatementReader) (text : String) : Option (String × Sql.SyntaxError) :=
  match read text with
  | .ok _ => none
  | .error cause => some (text, cause)

theorem rejection?_eq_none_iff {read : StatementReader} {text : String} :
    rejection? read text = none ↔ ∃ statements, read text = .ok statements := by
  unfold rejection?
  cases read text <;> simp

theorem rejection?_eq_some_iff {read : StatementReader} {text : String}
    {rejection : String × Sql.SyntaxError} :
    rejection? read text = some rejection ↔
      ∃ cause, read text = .error cause ∧ rejection = (text, cause) := by
  unfold rejection?
  cases read text <;> simp [eq_comm]

theorem mem_statements_of_mem_definitions {read : StatementReader} {script : String}
    {definition : CreateTable × String} (h : definition ∈ definitions read script) :
    definition.2 ∈ Script.statements script := by
  obtain ⟨⟨statement, text⟩, hparsed, hdefinition⟩ := List.mem_filterMap.mp h
  obtain ⟨source, hsource, hmem⟩ := List.mem_flatMap.mp hparsed
  have htext : text = source := by
    unfold parsedIn at hmem
    split at hmem
    · obtain ⟨_, -, hpair⟩ := List.mem_map.mp hmem
      exact (Prod.mk.inj hpair).2.symm
    · cases hmem
  cases statement <;> cases hdefinition
  rwa [htext]

/-! ### The reading of a script -/

theorem add_eq (reading : Reading) (statement : Statement) (text : String) :
    reading.add text statement =
      { reading with
        creates := reading.creates ++ (definition? (statement, text)).toList
        comments := reading.comments ++ commentOf (statement, text) } := by
  cases statement with
  | createTable create => simp [Reading.add, definition?, commentOf]
  | comment target name comment =>
      cases comment <;> simp [Reading.add, definition?, commentOf]
  | other => simp [Reading.add, definition?, commentOf]

theorem foldl_add_eq (text : String) (statements : List Statement) (reading : Reading) :
    statements.foldl (Reading.add text) reading =
      { reading with
        creates := reading.creates ++ (statements.map (·, text)).filterMap definition?
        comments := reading.comments ++ (statements.map (·, text)).flatMap commentOf } := by
  induction statements generalizing reading with
  | nil => simp
  | cons statement rest ih =>
      rw [List.foldl_cons, ih, add_eq]
      cases h : definition? (statement, text) <;>
        simp [h, List.append_assoc]

theorem addText_eq (read : StatementReader) (reading : Reading) (text : String) :
    reading.addText read text =
      { creates := reading.creates ++ (parsedIn read text).filterMap definition?
        comments := reading.comments ++ (parsedIn read text).flatMap commentOf
        parsedAny := reading.parsedAny || !(parsedIn read text).isEmpty
        firstError := reading.firstError.or (rejection? read text) } := by
  unfold Reading.addText parsedIn rejection?
  cases read text with
  | error cause => simp
  | ok statements =>
      simp only [foldl_add_eq]
      cases statements <;> simp

/-- A script is read for its statements and for the first text that is rejected. -/
theorem readScript_eq (read : StatementReader) (script : String) :
    readScript read script =
      { creates := definitions read script
        comments := (parsed read script).flatMap commentOf
        parsedAny := !(parsed read script).isEmpty
        firstError := (Script.statements script).findSome? (rejection? read) } := by
  have hfold : ∀ (texts : List String) (reading : Reading),
      texts.foldl (Reading.addText read) reading =
        { creates := reading.creates ++ (texts.flatMap (parsedIn read)).filterMap definition?
          comments := reading.comments ++ (texts.flatMap (parsedIn read)).flatMap commentOf
          parsedAny := reading.parsedAny || !(texts.flatMap (parsedIn read)).isEmpty
          firstError := reading.firstError.or (texts.findSome? (rejection? read)) } := by
    intro texts
    induction texts with
    | nil => simp
    | cons text rest ih =>
        intro reading
        rw [List.foldl_cons, ih, addText_eq]
        cases hempty : (parsedIn read text).isEmpty <;>
          cases hrejected : rejection? read text <;>
          simp_all [List.filterMap_append]
  rw [readScript, hfold]
  simp [definitions, parsed]

/-! ### Tables and columns of definitions -/

/-- What a column takes over from its declaration. -/
structure Declares (declaration : ColumnDef) (column : Column) : Prop where
  name : column.name = Naming.stripQuotes declaration.name.text
  propertyName : column.propertyName = Naming.propertyName declaration.name.text
  javaType : column.javaType = JavaType.ofColumnType
    (Text.lower (Text.trim (String.ofList (splitType declaration.dataType.toList).1)))
  isPrimaryKey : column.isPrimaryKey = declaration.options.contains .primaryKey

/-- What a table takes over from its definition: its name, and one column for each declaration in
the same order. -/
structure Defines (create : CreateTable) (table : Table) : Prop where
  name : table.name = Naming.stripQuotes (tableName create)
  className : table.className = Naming.typeName (tableName create)
  columns : List.Forall₂ Declares create.columns table.columns

structure Named (create : CreateTable) : Prop where
  columns : ∀ declaration ∈ create.columns, Naming.propertyName declaration.name.text ≠ ""
  table : Naming.typeName (tableName create) ≠ ""

/-- What a definition is blamed for: the first column whose name leaves no identifier, and only
without such a column the name of the table. -/
inductive Blamed (create : CreateTable) : SchemaFault → Prop where
  | column (before : List ColumnDef) (declaration : ColumnDef) (after : List ColumnDef)
      (hcolumns : create.columns = before ++ declaration :: after)
      (hbefore : ∀ earlier ∈ before, Naming.propertyName earlier.name.text ≠ "")
      (hname : Naming.propertyName declaration.name.text = "") :
      Blamed create (.columnName declaration.name.text)
  | table (hcolumns : ∀ declaration ∈ create.columns,
        Naming.propertyName declaration.name.text ≠ "")
      (hname : Naming.typeName (tableName create) = "") :
      Blamed create (.tableName (Naming.stripQuotes (tableName create)))

/-! ### Building columns and tables -/

theorem foldl_applyOption (options : List Sql.ColumnOption) (draft : ColumnDraft) :
    (options.foldl applyOption draft).name = draft.name ∧
      (options.foldl applyOption draft).baseType = draft.baseType ∧
      (options.foldl applyOption draft).isPrimaryKey =
        (draft.isPrimaryKey || options.contains .primaryKey) := by
  induction options generalizing draft with
  | nil => simp
  | cons option rest ih =>
      obtain ⟨hname, hbase, hkey⟩ := ih (applyOption draft option)
      rw [List.foldl_cons, hname, hbase, hkey]
      cases option <;>
        simp [applyOption, ColumnDraft.withNullable, ColumnDraft.withDefault,
          ColumnDraft.withPrimaryKey, ColumnDraft.withComment]

theorem columnDraft_fields (declaration : ColumnDef) (late : Option String) :
    (columnDraft declaration late).name = declaration.name.text ∧
      (columnDraft declaration late).baseType =
        String.ofList (splitType declaration.dataType.toList).1 ∧
      (columnDraft declaration late).isPrimaryKey = declaration.options.contains .primaryKey := by
  unfold columnDraft
  rcases splitType declaration.dataType.toList with ⟨base, length⟩
  cases length <;> cases late <;>
    simp [foldl_applyOption, ColumnDraft.withLength, ColumnDraft.withComment]

/-- A declaration is built exactly when its name leaves an identifier, and then as it declares. -/
theorem build_columnDraft_eq (declaration : ColumnDef) (late : Option String) :
    (columnDraft declaration late).build =
      if Naming.propertyName declaration.name.text = "" then
        .error (.schema (.columnName declaration.name.text))
      else .ok (columnDraft declaration late).column := by
  rw [ColumnDraft.build_eq, (columnDraft_fields declaration late).1]

theorem declares_columnDraft (declaration : ColumnDef) (late : Option String) :
    Declares declaration (columnDraft declaration late).column := by
  obtain ⟨hname, hbase, hkey⟩ := columnDraft_fields declaration late
  constructor <;> simp only [ColumnDraft.column_name, ColumnDraft.column_propertyName,
    ColumnDraft.column_javaType, ColumnDraft.column_isPrimaryKey, hname, hbase, hkey]

def lateDraft (comments : List LateComment) (create : CreateTable) (declaration : ColumnDef) :
    ColumnDraft :=
  columnDraft declaration
    (columnComment? comments (Text.lower (tableName create)) (Text.lower declaration.name.text))

def lateComment (comments : List LateComment) (create : CreateTable) (text : String) :
    Option String :=
  (tableComment? comments (Text.lower (tableName create))).or (Script.tableComment text)

theorem toTable_eq (comments : List LateComment) (create : CreateTable) (text : String) :
    toTable comments create text =
      (create.columns.mapM fun declaration => (lateDraft comments create declaration).build) >>=
        Table.make (tableName create) (lateComment comments create text) := rfl

theorem exists_build_lateDraft_iff (comments : List LateComment) (create : CreateTable)
    (declaration : ColumnDef) :
    (∃ column, (lateDraft comments create declaration).build = .ok column) ↔
      Naming.propertyName declaration.name.text ≠ "" := by
  rw [lateDraft, build_columnDraft_eq]
  split <;> rename_i hname <;> simp [hname]

theorem exists_columns_iff (comments : List LateComment) (create : CreateTable) :
    (∃ columns, (create.columns.mapM fun declaration =>
        (lateDraft comments create declaration).build) = .ok columns) ↔
      ∀ declaration ∈ create.columns, Naming.propertyName declaration.name.text ≠ "" := by
  simp only [Traversal.exists_mapM_eq_ok_iff, exists_build_lateDraft_iff]

theorem defines_of_toTable_eq_ok {comments : List LateComment} {create : CreateTable}
    {text : String} {table : Table} (h : toTable comments create text = .ok table) :
    Defines create table := by
  rw [toTable_eq] at h
  obtain ⟨columns, hcolumns, htable⟩ := Traversal.bind_eq_ok_iff.mp h
  obtain ⟨-, rfl⟩ := (Table.make_eq_ok_iff _ _ _ _).mp htable
  refine ⟨by simp, by simp, ?_⟩
  rw [Table.of_columns]
  refine ((Traversal.mapM_eq_ok_iff _ _ _).mp hcolumns).imp ?_
  intro declaration column hbuild
  obtain ⟨-, rfl⟩ := (ColumnDraft.build_eq_ok_iff _ _).mp hbuild
  exact declares_columnDraft declaration _

theorem exists_toTable_iff (comments : List LateComment) (create : CreateTable) (text : String) :
    (∃ table, toTable comments create text = .ok table) ↔ Named create := by
  rw [toTable_eq]
  constructor
  · rintro ⟨table, h⟩
    obtain ⟨columns, hcolumns, htable⟩ := Traversal.bind_eq_ok_iff.mp h
    exact ⟨(exists_columns_iff comments create).mp ⟨columns, hcolumns⟩,
      ((Table.make_eq_ok_iff _ _ _ _).mp htable).1⟩
  · rintro ⟨hnames, htable⟩
    obtain ⟨columns, hcolumns⟩ := (exists_columns_iff comments create).mpr hnames
    have hmake := (Table.make_eq_ok_iff (tableName create) (lateComment comments create text)
      columns _).mpr ⟨htable, rfl⟩
    exact ⟨_, Traversal.bind_eq_ok_iff.mpr ⟨columns, hcolumns, hmake⟩⟩

theorem build_lateDraft_eq_error_iff (comments : List LateComment) (create : CreateTable)
    (declaration : ColumnDef) (error : Error) :
    (lateDraft comments create declaration).build = .error error ↔
      Naming.propertyName declaration.name.text = "" ∧
        error = .schema (.columnName declaration.name.text) := by
  rw [lateDraft, build_columnDraft_eq]
  split <;> rename_i hname
  · simp [hname, eq_comm]
  · simp [hname]

theorem toTable_eq_error_iff (comments : List LateComment) (create : CreateTable) (text : String)
    (error : Error) :
    toTable comments create text = .error error ↔
      ∃ fault, Blamed create fault ∧ error = .schema fault := by
  rw [toTable_eq, Traversal.bind_eq_error_iff]
  constructor
  · rintro (hcolumns | ⟨columns, hcolumns, htable⟩)
    · obtain ⟨before, declaration, after, hsplit, hbefore, hfault⟩ :=
        (Traversal.mapM_eq_error_iff _ _ _).mp hcolumns
      simp only [exists_build_lateDraft_iff] at hbefore
      obtain ⟨hname, rfl⟩ := (build_lateDraft_eq_error_iff _ _ _ _).mp hfault
      exact ⟨_, .column before declaration after hsplit hbefore hname, rfl⟩
    · obtain ⟨hname, rfl⟩ := (Table.make_eq_error_iff _ _ _ _).mp htable
      have hnames := (exists_columns_iff comments create).mp ⟨columns, hcolumns⟩
      exact ⟨_, .table hnames hname, rfl⟩
  · rintro ⟨fault, hblamed, rfl⟩
    cases hblamed with
    | column before declaration after hsplit hbefore hname =>
        refine .inl ((Traversal.mapM_eq_error_iff _ _ _).mpr
          ⟨before, declaration, after, hsplit, ?_, ?_⟩)
        · simpa only [exists_build_lateDraft_iff] using hbefore
        · exact (build_lateDraft_eq_error_iff _ _ _ _).mpr ⟨hname, rfl⟩
    | table hnames hname =>
        obtain ⟨columns, hcolumns⟩ := (exists_columns_iff comments create).mpr hnames
        exact .inr ⟨columns, hcolumns, (Table.make_eq_error_iff _ _ _ _).mpr ⟨hname, rfl⟩⟩

/-! ### The tables of a script -/

/-- Why a script has no tables, the earlier reasons going first. -/
inductive Failure (read : StatementReader) (script : String) : Error → Prop where
  | blank (hblank : Text.isBlankText script) : Failure read script (.schema .blank)
  | rejected (hscript : ¬Text.isBlankText script) (hparsed : parsed read script = [])
      (before : List String) (text : String) (after : List String)
      (htexts : Script.statements script = before ++ text :: after)
      (hbefore : ∀ earlier ∈ before, ∃ statements, read earlier = .ok statements)
      (cause : Sql.SyntaxError) (hcause : read text = .error cause) :
      Failure read script (.schema (.rejected text cause))
  | noStatement (hscript : ¬Text.isBlankText script) (hparsed : parsed read script = [])
      (htexts : ∀ text ∈ Script.statements script, ∃ statements, read text = .ok statements) :
      Failure read script (.schema .noStatement)
  | noTables (hscript : ¬Text.isBlankText script) (hparsed : parsed read script ≠ [])
      (hdefinitions : definitions read script = []) : Failure read script .noTables
  | unnamed (hscript : ¬Text.isBlankText script)
      (before : List (CreateTable × String)) (create : CreateTable) (text : String)
      (after : List (CreateTable × String))
      (hdefinitions : definitions read script = before ++ (create, text) :: after)
      (hbefore : ∀ earlier ∈ before, Named earlier.1)
      (fault : SchemaFault) (hfault : Blamed create fault) :
      Failure read script (.schema fault)

theorem tables_readScript (read : StatementReader) (script : String)
    (hdefinitions : definitions read script ≠ []) :
    (readScript read script).tables = (definitions read script).mapM fun definition =>
      toTable ((parsed read script).flatMap commentOf) definition.1 definition.2 := by
  have hparsed : parsed read script ≠ [] := by
    intro hempty
    apply hdefinitions
    rw [definitions, hempty, List.filterMap_nil]
  rw [readScript_eq]
  simp [Reading.tables, hparsed, hdefinitions]

theorem parseWith_eq_ok_iff (read : StatementReader) (script : String) (tables : List Table) :
    parseWith read script = .ok tables ↔
      ¬Text.isBlankText script ∧ definitions read script ≠ [] ∧
        List.Forall₂ (fun definition table =>
          toTable ((parsed read script).flatMap commentOf) definition.1 definition.2 = .ok table)
          (definitions read script) tables := by
  unfold parseWith
  by_cases hblank : Text.isBlankText script
  · simp [hblank]
  by_cases hdefinitions : definitions read script = []
  · rw [readScript_eq]
    cases hparsed : parsed read script <;>
      cases hrejected : (Script.statements script).findSome? (rejection? read) <;>
      simp [hblank, hdefinitions, Reading.tables]
  · rw [if_neg hblank, tables_readScript read script hdefinitions, Traversal.mapM_eq_ok_iff]
    simp [hblank, hdefinitions]

theorem exists_make_of_mem {read : StatementReader} {script : String} {tables : List Table}
    (h : parseWith read script = .ok tables) {table : Table} (hmem : table ∈ tables) :
    ∃ rawName comment columns, Table.make rawName comment columns = .ok table ∧
      ∀ column ∈ columns, ∃ draft : ColumnDraft, draft.build = .ok column := by
  obtain ⟨-, -, htables⟩ := (parseWith_eq_ok_iff read script tables).mp h
  rw [← Traversal.mapM_eq_ok_iff] at htables
  obtain ⟨definition, -, htable⟩ := Traversal.exists_of_mem_mapM htables hmem
  rw [toTable_eq] at htable
  obtain ⟨columns, hcolumns, htable⟩ := Traversal.bind_eq_ok_iff.mp htable
  refine ⟨_, _, columns, htable, fun column hcolumn => ?_⟩
  obtain ⟨declaration, -, hbuild⟩ := Traversal.exists_of_mem_mapM hcolumns hcolumn
  exact ⟨_, hbuild⟩

theorem exists_parse_of_map {α : Type} {dialect : Dialect} {script : String} {view : Table → α}
    {seen : α} (h : (parse dialect script).toOption.map (·.map view) = some [seen]) :
    ∃ table, parse dialect script = .ok [table] ∧ view table = seen := by
  obtain ⟨tables, htables, hmap⟩ := Option.map_eq_some_iff.mp h
  obtain ⟨table, rfl, hview⟩ := List.map_eq_singleton_iff.mp hmap
  exact ⟨table, Traversal.toOption_eq_some_iff.mp htables, hview⟩

theorem parseWith_eq_error_iff_of_parsed_eq_nil {read : StatementReader} {script : String}
    (hblank : ¬Text.isBlankText script) (hparsed : parsed read script = []) (error : Error) :
    parseWith read script = .error error ↔ Failure read script error := by
  have hdefinitions : definitions read script = [] := by rw [definitions, hparsed]; rfl
  rw [parseWith, if_neg hblank, readScript_eq, hparsed, hdefinitions]
  constructor
  · intro h
    cases hfirst : (Script.statements script).findSome? (rejection? read) with
    | none =>
        simp only [Reading.tables, hfirst, List.isEmpty_nil, Bool.not_true, Bool.not_false,
          if_true, Except.error.injEq] at h
        subst h
        refine .noStatement hblank hparsed ?_
        intro text htext
        have haccepted := List.findSome?_eq_none_iff.mp hfirst text htext
        rwa [rejection?_eq_none_iff] at haccepted
    | some rejection =>
        obtain ⟨before, text, after, htexts, hrejected, hbefore⟩ :=
          List.findSome?_eq_some_iff.mp hfirst
        simp only [rejection?_eq_none_iff] at hbefore
        obtain ⟨cause, hcause, rfl⟩ := rejection?_eq_some_iff.mp hrejected
        simp only [Reading.tables, hfirst, List.isEmpty_nil, Bool.not_true, Bool.not_false,
          if_true, Except.error.injEq] at h
        subst h
        exact .rejected hblank hparsed before text after htexts hbefore cause hcause
  · intro h
    cases h with
    | blank h => exact absurd h hblank
    | rejected _ _ before text after htexts hbefore cause hcause =>
        have hfirst : (Script.statements script).findSome? (rejection? read) =
            some (text, cause) := by
          refine List.findSome?_eq_some_iff.mpr ⟨before, text, after, htexts, ?_, ?_⟩
          · exact rejection?_eq_some_iff.mpr ⟨cause, hcause, rfl⟩
          · simpa only [rejection?_eq_none_iff] using hbefore
        simp [Reading.tables, hfirst]
    | noStatement _ _ htexts =>
        have hfirst : (Script.statements script).findSome? (rejection? read) = none := by
          refine List.findSome?_eq_none_iff.mpr ?_
          simpa only [rejection?_eq_none_iff] using htexts
        simp [Reading.tables, hfirst]
    | noTables _ h => exact absurd hparsed h
    | unnamed _ before create text after h =>
        rw [hdefinitions] at h
        simp at h

theorem parseWith_eq_error_iff_of_definitions_ne_nil {read : StatementReader} {script : String}
    (hblank : ¬Text.isBlankText script) (hdefinitions : definitions read script ≠ [])
    (error : Error) : parseWith read script = .error error ↔ Failure read script error := by
  have hparsed : parsed read script ≠ [] := by
    intro hempty
    exact hdefinitions (by rw [definitions, hempty]; rfl)
  rw [parseWith, if_neg hblank, tables_readScript read script hdefinitions,
    Traversal.mapM_eq_error_iff]
  simp only [exists_toTable_iff, toTable_eq_error_iff]
  constructor
  · rintro ⟨before, ⟨create, text⟩, after, hsplit, hbefore, fault, hfault, rfl⟩
    exact .unnamed hblank before create text after hsplit hbefore fault hfault
  · intro h
    cases h with
    | blank h => exact absurd h hblank
    | rejected _ h => exact absurd h hparsed
    | noStatement _ h => exact absurd h hparsed
    | noTables _ _ h => exact absurd h hdefinitions
    | unnamed _ before create text after hsplit hbefore fault hfault =>
        exact ⟨before, (create, text), after, hsplit, hbefore, fault, hfault, rfl⟩

theorem parseWith_eq_error_iff (read : StatementReader) (script : String) (error : Error) :
    parseWith read script = .error error ↔ Failure read script error := by
  by_cases hblank : Text.isBlankText script
  · rw [parseWith, if_pos hblank]
    constructor
    · intro h
      cases h
      exact .blank hblank
    · intro h
      cases h with
      | blank => rfl
      | _ => contradiction
  by_cases hparsed : parsed read script = []
  · exact parseWith_eq_error_iff_of_parsed_eq_nil hblank hparsed error
  by_cases hdefinitions : definitions read script = []
  · have hparse : parseWith read script = .error .noTables := by
      rw [parseWith, if_neg hblank, readScript_eq]
      simp [Reading.tables, hparsed, hdefinitions]
    rw [hparse]
    constructor
    · intro h
      cases h
      exact .noTables hblank hparsed hdefinitions
    · intro h
      cases h with
      | noTables => rfl
      | unnamed _ before create text after h => simp [hdefinitions] at h
      | _ => contradiction
  · exact parseWith_eq_error_iff_of_definitions_ne_nil hblank hdefinitions error

theorem Failure.kind_eq {read : StatementReader} {script : String} {error : Error}
    (h : Failure read script error) : error.kind = .parse := by
  cases h <;> rfl

/-- A script has tables exactly when it is not blank, holds a definition and all names of its
definitions are fit; then there is one table for each definition, in order. Otherwise the first
reason of `Failure` is reported. -/
theorem parseWith_reads_definitions (read : StatementReader) (script : String) :
    ((∃ tables, parseWith read script = .ok tables) ↔
        ¬Text.isBlankText script ∧ definitions read script ≠ [] ∧
          ∀ definition ∈ definitions read script, Named definition.1) ∧
      (∀ tables, parseWith read script = .ok tables →
        List.Forall₂ (fun definition table => Defines definition.1 table)
          (definitions read script) tables) ∧
      (∀ error, parseWith read script = .error error ↔ Failure read script error) ∧
      (∀ error, Failure read script error → error.kind = .parse) ∧
      SchemaFault.noStatement.message = "no parsable SQL statement found" := by
  refine ⟨?_, ?_, parseWith_eq_error_iff read script, fun _ h => h.kind_eq, rfl⟩
  · have hmap := Traversal.exists_mapM_eq_ok_iff
      (fun definition : CreateTable × String =>
        toTable ((parsed read script).flatMap commentOf) definition.1 definition.2)
      (definitions read script)
    simp only [Traversal.mapM_eq_ok_iff, exists_toTable_iff] at hmap
    simp only [parseWith_eq_ok_iff, exists_and_left, hmap]
  · intro tables h
    obtain ⟨-, -, htables⟩ := (parseWith_eq_ok_iff read script tables).mp h
    exact htables.imp fun _ _ => defines_of_toTable_eq_ok

end SchemaScaffold.Schema
