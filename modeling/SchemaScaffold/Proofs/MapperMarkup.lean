import SchemaScaffold.Proofs.Form.Holes
import SchemaScaffold.Proofs.Form.WrittenForms
import SchemaScaffold.Proofs.PropertyNames

namespace SchemaScaffold

open Form

structure MapperMarkup where
  packageName : String
  className : String
  tableName : String
  paged : Bool
  rows : List String
  columnList : List String
  insertColumns : List String
  insertValues : List String
  updates : List String
  keyColumn : String
  keyProperty : String

namespace MapperMarkup

def parameter (name : String) : String := String.join ["#\x7b", name, "\x7d"]

def resultRow (column : Column) : String :=
  String.join ["        <", if column.isPrimaryKey then "id" else "result", " column=\"", column.name,
    "\" property=\"", column.propertyName, "\"/>"]

def update (column : Column) : String :=
  String.join ["            <if test=\"", column.propertyName, " != null\">", column.name, " = ",
    parameter column.propertyName, ",</if>"]

def commaList (items : List String) : String := ", ".intercalate items

def pageLines (tableName : String) : List String := [
  "",
  "    <select id=\"selectPage\" resultMap=\"BaseResultMap\">",
  "        SELECT <include refid=\"Base_Column_List\"/> FROM " ++ tableName
    ++ " LIMIT #\x7bsize\x7d OFFSET #\x7boffset\x7d",
  "    </select>",
  "",
  "    <select id=\"count\" resultType=\"long\">",
  "        SELECT COUNT(*) FROM " ++ tableName,
  "    </select>"]

def lines (markup : MapperMarkup) : List String :=
  ["<?xml version=\"1.0\" encoding=\"UTF-8\"?>",
    "<!DOCTYPE mapper PUBLIC \"-//mybatis.org//DTD Mapper 3.0//EN\""
      ++ " \"http://mybatis.org/dtd/mybatis-3-mapper.dtd\">",
    "<mapper namespace=\"" ++ markup.packageName ++ ".mapper." ++ markup.className ++ "Mapper\">",
    "",
    "    <resultMap id=\"BaseResultMap\" type=\"" ++ markup.packageName ++ ".entity."
      ++ markup.className ++ "\">"]
  ++ markup.rows
  ++ ["    </resultMap>",
    "",
    "    <sql id=\"Base_Column_List\">",
    "        " ++ commaList markup.columnList,
    "    </sql>",
    "",
    "    <select id=\"selectById\" resultMap=\"BaseResultMap\">",
    "        SELECT <include refid=\"Base_Column_List\"/> FROM " ++ markup.tableName ++ " WHERE "
      ++ markup.keyColumn ++ " = #\x7bid\x7d",
    "    </select>",
    "",
    "    <select id=\"selectAll\" resultMap=\"BaseResultMap\">",
    "        SELECT <include refid=\"Base_Column_List\"/> FROM " ++ markup.tableName,
    "    </select>"]
  ++ (if markup.paged then pageLines markup.tableName else [])
  ++ ["",
    "    <insert id=\"insert\" useGeneratedKeys=\"true\" keyProperty=\"" ++ markup.keyProperty
      ++ "\">",
    "        INSERT INTO " ++ markup.tableName ++ " (" ++ commaList markup.insertColumns ++ ")",
    "        VALUES (" ++ commaList markup.insertValues ++ ")",
    "    </insert>",
    "",
    "    <update id=\"updateById\">",
    "        UPDATE " ++ markup.tableName,
    "        <set>"]
  ++ markup.updates
  ++ ["        </set>",
    "        WHERE " ++ markup.keyColumn ++ " = " ++ parameter markup.keyProperty,
    "    </update>",
    "",
    "    <delete id=\"deleteById\">",
    "        DELETE FROM " ++ markup.tableName ++ " WHERE " ++ markup.keyColumn ++ " = #\x7bid\x7d",
    "    </delete>",
    "</mapper>"]

def print (markup : MapperMarkup) : String := unlines markup.lines

def writtenColumns (table : Table) : List Column :=
  table.columns.filter fun column => !column.isPrimaryKey

def ofTable (project : Project) (table : Table) : MapperMarkup where
  packageName := project.packageName
  className := table.className
  tableName := table.name
  paged := project.stack.pagination
  rows := table.columns.map resultRow
  columnList := table.columns.map (·.name)
  insertColumns := (writtenColumns table).map (·.name)
  insertValues := (writtenColumns table).map fun column => parameter column.propertyName
  updates := (writtenColumns table).map update
  keyColumn := table.primaryKeyColumn.getD "id"
  keyProperty := (table.primaryKey.map (·.propertyName)).getD "id"

end MapperMarkup

/-! ### Repetitions with a separator -/

namespace Form

theorem flatMap_places_separated {α : Type} {enter : α → Focus} {chars : Focus → List Char}
    {text : α → List Char} {separator : List Char} (count index : Nat) {items : List α}
    (hcount : index + items.length = count)
    (hchars : ∀ item index, chars { enter item with index, count } =
      text item ++ if index + 1 = count then [] else separator) :
    (places enter count index items).flatMap chars = separator.intercalate (items.map text) := by
  induction items generalizing index with
  | nil => rfl
  | cons item rest ih =>
      rw [List.length_cons] at hcount
      rw [places, List.flatMap_cons, hchars, ih (index + 1) (by omega), List.map_cons]
      cases rest with
      | nil => simp [List.length_nil] at hcount ⊢; omega
      | cons other others =>
          rw [List.length_cons] at hcount
          rw [if_neg (by omega), List.map_cons, List.intercalate_cons_cons]

/-! ### The form of the template -/

def separator : Piece := .branch (.negation (.data .isLast)) [plainText ", "] []

def separated (item : List Piece) : List Piece := item ++ [separator]

def resultRowForm : List Piece :=
  [plainLines "" ["        <"], .branch (.data .isPrimaryKey) [plainText "id"] [plainText "result"],
    plainText " column=\"", printDatum .columnName, plainText "\" property=\"",
    printDatum .propertyName, plainText "\"/>"]

def parameterForm (term : Term) : List Piece :=
  [.print (.constant (.text "\x7b")), .print term]

def valueForm : List Piece :=
  plainText "#" :: parameterForm (.data .propertyName) ++ [plainText "\x7d"]

def updateForm : List Piece :=
  [plainLines "" ["            <if test=\""], printDatum .propertyName, plainText " != null\">",
    printDatum .columnName, plainText " = #"] ++ parameterForm (.data .propertyName)
  ++ [plainText "\x7d,</if>"]

def pageForm : List Piece :=
  [plainLines "" ["", "    <select id=\"selectPage\" resultMap=\"BaseResultMap\">",
      "        SELECT <include refid=\"Base_Column_List\"/> FROM "], printDatum .tableName,
    plainLines " LIMIT #\x7bsize\x7d OFFSET #\x7boffset\x7d" ["    </select>", "",
      "    <select id=\"count\" resultType=\"long\">", "        SELECT COUNT(*) FROM "],
    printDatum .tableName, plainLines "" ["    </select>"]]

def mapperForm : List Piece :=
  [plainLines "<?xml version=\"1.0\" encoding=\"UTF-8\"?>"
      ["<!DOCTYPE mapper PUBLIC \"-//mybatis.org//DTD Mapper 3.0//EN\""
        ++ " \"http://mybatis.org/dtd/mybatis-3-mapper.dtd\">",
      "<mapper namespace=\""],
    printDatum .packageName, plainText ".mapper.", printDatum .className,
    plainLines "Mapper\">" ["", "    <resultMap id=\"BaseResultMap\" type=\""],
    printDatum .packageName, plainText ".entity.", printDatum .className, plainText "\">",
    .forColumns always resultRowForm,
    plainLines "" ["    </resultMap>", "", "    <sql id=\"Base_Column_List\">", "        "],
    .forColumns always (separated [printDatum .columnName]),
    plainLines "" ["    </sql>", "", "    <select id=\"selectById\" resultMap=\"BaseResultMap\">",
      "        SELECT <include refid=\"Base_Column_List\"/> FROM "],
    printDatum .tableName, plainText " WHERE ", .print Hole.keyColumn.term,
    plainLines " = #\x7bid\x7d" ["    </select>", "",
      "    <select id=\"selectAll\" resultMap=\"BaseResultMap\">",
      "        SELECT <include refid=\"Base_Column_List\"/> FROM "],
    printDatum .tableName, plainLines "" ["    </select>"],
    .branch (.data (.flag .pagination)) pageForm [],
    plainLines "" ["", "    <insert id=\"insert\" useGeneratedKeys=\"true\" keyProperty=\""],
    .print Hole.keyProperty.term, plainLines "\">" ["        INSERT INTO "], printDatum .tableName,
    plainText " (",
    .forColumns (.negation (.data .isPrimaryKey)) (separated [printDatum .columnName]),
    plainLines ")" ["        VALUES ("],
    .forColumns (.negation (.data .isPrimaryKey)) (separated valueForm),
    plainLines ")" ["    </insert>", "", "    <update id=\"updateById\">", "        UPDATE "],
    printDatum .tableName, plainLines "" ["        <set>"],
    .forColumns (.negation (.data .isPrimaryKey)) updateForm,
    plainLines "" ["        </set>", "        WHERE "], .print Hole.keyColumn.term, plainText " = #"]
  ++ parameterForm Hole.keyProperty.term
  ++ [plainLines "\x7d" ["    </update>", "", "    <delete id=\"deleteById\">", "        DELETE FROM "],
    printDatum .tableName, plainText " WHERE ", .print Hole.keyColumn.term,
    plainLines " = #\x7bid\x7d" ["    </delete>", "</mapper>", ""]]

theorem hasForm_mapper :
    HasForm .ofTable Template.Shipped.Mybatis.mapperMarkup fun form => sameForm form mapperForm := by
  simp only [mapperForm, plainText, plainLines, printDatum, always, separated, separator, resultRowForm,
    valueForm, parameterForm, updateForm, pageForm, onNewLines_cons, onNewLines_nil, List.cons_append,
    List.nil_append, String.toList_append]
  repeat rw [String.toList_ofList]
  apply Spelled.hasForm
  · simp only [Template.Shipped.Mybatis.mapperMarkup]
    repeat first | exact .last _ | apply Spelled.line
  · decide +kernel

/-! ### Its text -/

section

variable (focus : Focus)

theorem keptColumns_written :
    focus.keptColumns (.negation (.data .isPrimaryKey)) = MapperMarkup.writtenColumns focus.table := rfl

theorem chars_forColumns_separated {item : List Piece} (text : Column → String)
    (hitem : ∀ place : Focus, charsOf item place = (text place.column).toList) (keep : Term) :
    (Piece.forColumns keep (separated item)).chars focus =
      (MapperMarkup.commaList ((focus.keptColumns keep).map text)).toList := by
  rw [Piece.chars, Focus.atColumns, MapperMarkup.commaList, String.toList_intercalate, List.map_map]
  refine flatMap_places_separated _ _ (Nat.zero_add _) fun column index => ?_
  have hlast : (Term.negation (.data .isLast)).holds
      { focus with column, index, count := (focus.keptColumns keep).length } =
        !(index + 1 == (focus.keptColumns keep).length) := rfl
  simp [separated, separator, charsOf_append, hitem, hlast]

theorem charsOf_resultRowForm :
    charsOf resultRowForm focus = '\n' :: (MapperMarkup.resultRow focus.column).toList := by
  have hkey : (Term.data .isPrimaryKey).holds focus = focus.column.isPrimaryKey := rfl
  cases hcolumn : focus.column.isPrimaryKey <;>
    simp [resultRowForm, MapperMarkup.resultRow, hkey, hcolumn, Datum.value, Template.printedText]

theorem charsOf_parameterForm (term : Term) :
    charsOf (parameterForm term) focus = '\x7b' :: (term.text focus).toList := by
  have hbrace : (Term.constant (.text "\x7b")).text focus = "\x7b" := rfl
  simp [parameterForm, hbrace]

theorem charsOf_updateForm :
    charsOf updateForm focus = '\n' :: (MapperMarkup.update focus.column).toList := by
  have hproperty : (Term.data .propertyName).text focus = focus.column.propertyName := rfl
  simp [updateForm, MapperMarkup.update, MapperMarkup.parameter, charsOf_append, charsOf_parameterForm,
    hproperty, Datum.value, Template.printedText]

theorem charsOf_valueForm :
    charsOf valueForm focus = (MapperMarkup.parameter focus.column.propertyName).toList := by
  have hproperty : (Term.data .propertyName).text focus = focus.column.propertyName := rfl
  simp [valueForm, MapperMarkup.parameter, charsOf_append, charsOf_parameterForm, hproperty]

theorem charsOf_columnName :
    charsOf [printDatum .columnName] focus = focus.column.name.toList := by
  simp [Datum.value, Template.printedText]

theorem charsOf_pageForm :
    charsOf pageForm focus = onNewLines (MapperMarkup.pageLines focus.table.name) := by
  simp only [pageForm, MapperMarkup.pageLines, charsOf_cons, charsOf_nil, chars_plainLines,
    chars_printDatum, Datum.value, Template.printedText, onNewLines_cons, onNewLines_nil,
    String.toList_append, String.toList_empty, List.append_nil, List.nil_append, List.append_assoc,
    List.cons_append]

end

theorem textOf_mapperForm {project : Project} {table : Table}
    (hcolumn : Hole.keyColumn.term.text { project, table } = table.primaryKeyColumn.getD "id")
    (hproperty : Hole.keyProperty.term.text { project, table } =
      (table.primaryKey.map (·.propertyName)).getD "id") :
    textOf mapperForm { project, table } = (MapperMarkup.ofTable project table).print := by
  have hpaged : (Term.data (.flag .pagination)).holds { project, table } =
      project.stack.pagination := rfl
  have hrows := chars_forColumns { project, table }
    (fun column => '\n' :: (MapperMarkup.resultRow column).toList)
    fun place _ => charsOf_resultRowForm place
  have hupdates := chars_forColumns { project, table }
    (fun column => '\n' :: (MapperMarkup.update column).toList) fun place _ => charsOf_updateForm place
  have hvalues := chars_forColumns_separated { project, table }
    (fun column => MapperMarkup.parameter column.propertyName) charsOf_valueForm
  apply String.toList_inj.mp
  rw [toList_textOf, MapperMarkup.print, mapperForm, MapperMarkup.lines, MapperMarkup.ofTable]
  have hhash : "#\x7b".toList = ['#', '\x7b'] := by decide
  have hclose : "\x7d".toList = ['\x7d'] := by decide
  have hequal : " = #".toList = " = ".toList ++ ['#'] := by decide
  simp only [unlines_cons, charsOf_append, charsOf_cons, charsOf_nil, chars_plainText, chars_plainLines,
    chars_printDatum, chars_print, chars_branch, charsOf_parameterForm, charsOf_pageForm, hcolumn,
    hproperty, hpaged, onNewLines_ite, hrows, hupdates, hvalues,
    chars_forColumns_separated _ _ charsOf_columnName, keptColumns_always, keptColumns_written,
    onNewLines_append, onNewLines_cons, onNewLines_nil, onNewLines_map, MapperMarkup.parameter,
    Datum.value, Template.printedText, hhash, hclose, hequal, String.toList_join, String.toList_append,
    String.toList_empty, List.flatMap_cons, List.flatMap_nil, List.append_assoc, List.append_nil,
    List.nil_append, List.cons_append]

/-! ### The key -/

/-- A text that may be missing is printed unless it is, or is empty. -/
theorem text_choice_of_value {focus : Focus} {datum : Datum} {found : Option String}
    (hvalue : datum.value focus = .optText found) (hne : ∀ name ∈ found, name ≠ "") (other : String) :
    (Term.choice (.data datum) (.data datum) (.constant (.text other))).text focus =
      found.getD other := by
  cases found with
  | none =>
      rw [Term.text_choice, Term.holds, Term.value, hvalue]
      rfl
  | some name =>
      rw [text_choice_text focus hvalue, if_neg (hne name rfl)]
      rfl

end Form

theorem Column.IsBuilt.name_ne_empty {column : Column} (h : column.IsBuilt) : column.name ≠ "" := by
  obtain ⟨hproperty, hne⟩ := h.propertyName_eq
  intro hname
  rw [hproperty, hname] at hne
  exact hne (by decide)

theorem Table.mem_of_primaryKey {table : Table} {column : Column} (h : table.primaryKey = some column) :
    column ∈ table.columns := by
  obtain ⟨name, -, hcolumn⟩ := Option.bind_eq_some_iff.mp h
  exact List.mem_of_find?_eq_some hcolumn

/-- The column that is looked up by the recorded name has that name. -/
theorem Table.map_name_primaryKey_of (rawName : String) (comment : Option String)
    (columns : List Column) : (Table.of rawName comment columns).primaryKey.map (·.name) =
      (Table.of rawName comment columns).primaryKeyColumn := by
  cases hkey : columns.find? (·.isPrimaryKey) with
  | none => simp [Table.of, Table.primaryKey, hkey]
  | some key =>
      have hmem : key ∈ columns := List.mem_of_find?_eq_some hkey
      obtain ⟨column, hcolumn⟩ : ∃ column, columns.find? (·.name == key.name) = some column := by
        rw [← Option.isSome_iff_exists, List.find?_isSome]
        exact ⟨key, hmem, beq_self_eq_true _⟩
      have hname : column.name = key.name := by simpa using List.find?_some hcolumn
      simp [Table.of, Table.primaryKey, Table.column?, hkey, hcolumn, hname]

/-! ### The markup of a table -/

open MapperMarkup in
/-- The markup for a table holds the columns of each list in the order of declaration, and looks for
the recorded key. -/
theorem markup_of_mapper {project : Project} {rawName : String} {comment : Option String}
    {columns : List Column} {table : Table} (horm : project.stack.orm = .mybatis)
    (hbuilt : ∀ column ∈ columns, column.IsBuilt)
    (htable : Table.make rawName comment columns = .ok table) :
    ∃ markup : MapperMarkup, Renders project table .dataAccessMarkup markup.print ∧
      markup.rows = columns.map resultRow ∧
      markup.columnList = columns.map (·.name) ∧
      markup.insertColumns.length = markup.insertValues.length ∧
      markup.insertColumns = (columns.filter fun column => !column.isPrimaryKey).map (·.name) ∧
      markup.insertValues = (columns.filter fun column => !column.isPrimaryKey).map
        (fun column => parameter column.propertyName) ∧
      markup.updates = (columns.filter fun column => !column.isPrimaryKey).map update ∧
      markup.keyColumn = table.primaryKeyColumn.getD "id" := by
  obtain ⟨-, rfl⟩ := (Table.make_eq_ok_iff _ _ _ _).mp htable
  have hmember : ∀ column ∈ (Table.of rawName comment columns).primaryKey, column.IsBuilt := by
    intro column hcolumn
    have hmem := Table.mem_of_primaryKey hcolumn
    rw [Table.of_columns] at hmem
    exact hbuilt column hmem
  have hcolumn : Hole.keyColumn.term.text { project, table := Table.of rawName comment columns } =
      (Table.of rawName comment columns).primaryKeyColumn.getD "id" := by
    rw [← Table.map_name_primaryKey_of]
    refine text_choice_of_value rfl (fun name hname => ?_) "id"
    obtain ⟨column, hkey, rfl⟩ := Option.map_eq_some_iff.mp hname
    exact (hmember column hkey).name_ne_empty
  have hproperty : Hole.keyProperty.term.text { project, table := Table.of rawName comment columns } =
      ((Table.of rawName comment columns).primaryKey.map (·.propertyName)).getD "id" := by
    refine text_choice_of_value rfl (fun name hname => ?_) "id"
    obtain ⟨column, hkey, rfl⟩ := Option.map_eq_some_iff.mp hname
    exact (hmember column hkey).propertyName_eq.2
  have htemplate : shippedFor project.stack .dataAccessMarkup =
      some ("mybatis/Mapper.xml.ftl", Template.Shipped.Mybatis.mapperMarkup) := by
    simp only [shippedFor, horm]
  have hrenders := renders_of_sameForm htemplate hasForm_mapper (Table.of rawName comment columns)
  rw [textOf_mapperForm hcolumn hproperty] at hrenders
  refine ⟨ofTable project (Table.of rawName comment columns), hrenders, ?_, ?_, ?_, ?_, ?_, ?_, rfl⟩
  all_goals simp only [ofTable, writtenColumns, Table.of_columns, List.length_map]

theorem markup_of_mapper_users :
    let columns := keyColumn :: textColumns ["user_name", "note"]
    let users := Table.of "users" none columns
    shop.stack.orm = .mybatis ∧ (∀ column ∈ columns, column.IsBuilt) ∧
      Table.make "users" none columns = .ok users ∧
      ∃ markup : MapperMarkup, Renders shop users .dataAccessMarkup markup.print ∧
        markup.columnList = ["id", "user_name", "note"] ∧
        markup.insertColumns = ["user_name", "note"] ∧
        markup.insertValues = ["#\x7buserName\x7d", "#\x7bnote\x7d"] ∧
        markup.keyColumn = "id" := by
  intro columns users
  have hkey : keyColumn.IsBuilt := ⟨_, (ColumnDraft.build_eq_ok_iff _ _).mpr ⟨by decide, rfl⟩⟩
  have hbuilt : ∀ column ∈ columns, column.IsBuilt :=
    List.forall_mem_cons.mpr ⟨hkey, isBuilt_textColumns (by decide)⟩
  have htable : Table.make "users" none columns = .ok users :=
    (Table.make_eq_ok_iff _ _ _ _).mpr ⟨by decide, rfl⟩
  have horm : shop.stack.orm = .mybatis := rfl
  obtain ⟨markup, hmarkup, -, hcolumns, -, hinsert, hvalues, -, hkeyColumn⟩ :=
    markup_of_mapper horm hbuilt htable
  refine ⟨horm, hbuilt, htable, markup, hmarkup, hcolumns.trans ?_, hinsert.trans ?_, hvalues.trans ?_,
    hkeyColumn.trans ?_⟩
  all_goals decide +kernel

end SchemaScaffold
