import SchemaScaffold.Proofs.Form.Members
import SchemaScaffold.Proofs.Form.WrittenForms

namespace SchemaScaffold

open Form

namespace Entity

/-! ### The head -/

def title (table : Table) : String := if table.comment = "" then table.name else table.comment

def libraryImports : Orm → List String
  | .mybatis => []
  | .mybatisPlus => ["import com.baomidou.mybatisplus.annotation.IdType;",
      "import com.baomidou.mybatisplus.annotation.TableId;",
      "import com.baomidou.mybatisplus.annotation.TableName;"]
  | .jpa => ["import jakarta.persistence.Column;", "import jakarta.persistence.Entity;",
      "import jakarta.persistence.GeneratedValue;", "import jakarta.persistence.GenerationType;",
      "import jakarta.persistence.Id;", "import jakarta.persistence.Table;"]

def tableLines (tableName : String) : Orm → List String
  | .mybatis => []
  | .mybatisPlus => [String.join ["@TableName(\"", tableName, "\")"]]
  | .jpa => ["@Entity", String.join ["@Table(name = \"", tableName, "\")"]]

def annotationLines (stack : Stack) (table : Table) : List String :=
  (if stack.lombokAccessors then ["@Data"] else [])
  ++ (if stack.apiDocs then [String.join ["@Schema(description = \"", title table, "\")"]] else [])
  ++ tableLines table.name stack.orm

def headLines (project : Project) (table : Table) : List String :=
  [String.join ["package ", project.packageName, ".entity;"], ""]
  ++ (Model.imports project.stack table).map (fun path => String.join ["import ", path, ";"])
  ++ (if project.stack.lombokAccessors then ["import lombok.Data;"] else [])
  ++ libraryImports project.stack.orm
  ++ ["", "/**", String.join [" * ", title table], " */"]
  ++ annotationLines project.stack table
  ++ [String.join ["public class ", table.className, " \x7b"]]

/-! ### Fields -/

def commentLines (column : Column) : List String :=
  if column.comment = "" then [] else [String.join ["    /** ", column.comment, " */"]]

def schemaLines (stack : Stack) (column : Column) : List String :=
  let description := if column.comment = "" then column.name else column.comment
  if stack.apiDocs then [String.join ["    @Schema(description = \"", description, "\")"]] else []

def keyLines (column : Column) : Orm → List String
  | .mybatisPlus =>
    if column.isPrimaryKey then
      [String.join ["    @TableId(value = \"", column.name, "\", type = IdType.AUTO)"]]
    else []
  | .mybatis | .jpa => []

def boundLines (column : Column) : List String :=
  (if column.nullable then [] else ["    @NotNull"])
  ++ match column.maxLength with
    | some bound =>
      if bound ≠ 0 ∧ column.javaType = .string then
        [String.join ["    @Size(max = ", toString bound, ")"]]
      else []
    | none => []

def mappingLines (column : Column) : Orm → List String
  | .jpa =>
    (if column.isPrimaryKey then
      ["    @Id", "    @GeneratedValue(strategy = GenerationType.IDENTITY)"] else [])
    ++ [String.join ["    @Column(name = \"", column.name, "\"",
      if column.nullable then "" else ", nullable = false", ")"]]
  | .mybatis | .mybatisPlus => []

def declaration (column : Column) : String :=
  String.join ["    private ", column.javaType.source, " ", column.propertyName, ";"]

def fieldLines (stack : Stack) (column : Column) : List String :=
  commentLines column ++ schemaLines stack column ++ keyLines column stack.orm
  ++ (if stack.validation && !column.isPrimaryKey then boundLines column else [])
  ++ mappingLines column stack.orm ++ [declaration column]

def fieldBlock (stack : Stack) (column : Column) : String :=
  unlines ("" :: fieldLines stack column)

def isBound (line : String) : Bool :=
  "    @NotNull".toList.isPrefixOf line.toList || "    @Size(".toList.isPrefixOf line.toList

/-- Whether a text differs from the beginning of a line of a bound, within its own length. -/
def differsFromBounds (start : List Char) : Bool :=
  ["    @NotNull".toList, "    @Size(".toList].all fun marker =>
    (marker.zip start).any fun pair => pair.1 != pair.2

theorem isPrefixOf_append_eq_false {marker start : List Char}
    (h : (marker.zip start).any fun pair => pair.1 != pair.2) (rest : List Char) :
    marker.isPrefixOf (start ++ rest) = false := by
  induction marker generalizing start with
  | nil => cases h
  | cons m marker ih =>
      cases start with
      | nil => cases h
      | cons c start =>
          rw [List.zip_cons_cons, List.any_cons, Bool.or_eq_true, bne_iff_ne] at h
          rw [List.cons_append, List.isPrefixOf, Bool.and_eq_false_iff, beq_eq_false_iff_ne]
          exact h.imp id ih

theorem not_isBound_join {start : String} (h : differsFromBounds start.toList) (rest : List String) :
    ¬isBound (String.join (start :: rest)) := by
  simp only [differsFromBounds, List.all_cons, List.all_nil, Bool.and_true, Bool.and_eq_true] at h
  rw [isBound, String.toList_join, List.flatMap_cons, isPrefixOf_append_eq_false h.1,
    isPrefixOf_append_eq_false h.2]
  decide

section

variable (stack : Stack) (column : Column)

theorem filter_isBound_commentLines : (commentLines column).filter isBound = [] := by
  rw [commentLines]
  split
  · rfl
  · exact List.filter_cons_of_neg (not_isBound_join (by decide) _)

theorem filter_isBound_schemaLines : (schemaLines stack column).filter isBound = [] := by
  simp only [schemaLines]
  split
  · exact List.filter_cons_of_neg (not_isBound_join (by decide) _)
  · rfl

theorem filter_isBound_keyLines (orm : Orm) : (keyLines column orm).filter isBound = [] := by
  cases orm with
  | mybatis | jpa => rfl
  | mybatisPlus =>
      rw [keyLines]
      split
      · exact List.filter_cons_of_neg (not_isBound_join (by decide) _)
      · rfl

theorem filter_isBound_mappingLines (orm : Orm) : (mappingLines column orm).filter isBound = [] := by
  cases orm with
  | mybatis | mybatisPlus => rfl
  | jpa =>
      rw [mappingLines, List.filter_append, List.append_eq_nil_iff]
      constructor
      · split
        · decide +kernel
        · rfl
      · exact List.filter_cons_of_neg (not_isBound_join (by decide) _)

theorem isBound_of_mem_boundLines {line : String} (h : line ∈ boundLines column) : isBound line := by
  rw [boundLines, List.mem_append] at h
  rcases h with h | h
  · split at h
    · cases h
    · obtain rfl := List.mem_singleton.mp h
      decide
  · split at h
    case h_2 => cases h
    case h_1 bound _ =>
      split at h
      · obtain rfl := List.mem_singleton.mp h
        have hmarker : "    @Size(".toList <+: "    @Size(max = ".toList := by decide
        rw [isBound, Bool.or_eq_true, String.toList_join, List.flatMap_cons]
        exact .inr (List.isPrefixOf_iff_prefix.mpr (hmarker.trans (List.prefix_append _ _)))
      · cases h

theorem fieldBlock_congr {other : Stack} (horm : other.orm = stack.orm)
    (hdocs : other.apiDocs = stack.apiDocs) (hvalidation : other.validation = stack.validation) :
    fieldBlock other column = fieldBlock stack column := by
  simp only [fieldBlock, fieldLines, schemaLines, horm, hdocs, hvalidation]

theorem fieldLine_suffix_fieldBlock : fieldLine column <:+ (fieldBlock stack column).toList := by
  have hline : onNewLines [declaration column] ++ ['\n'] = fieldLine column := by
    rw [← MemberPart.chars_ofField]
    simp [MemberPart.ofField, MemberPart.chars, declaration]
  rw [fieldBlock, unlines_cons, fieldLines, onNewLines_append _ [declaration column],
    List.append_assoc, List.append_assoc, hline, ← List.append_assoc]
  exact List.suffix_append _ _

/-- The values of a field are checked in the lines for bounds, and not elsewhere. -/
theorem filter_isBound_fieldLines : (fieldLines stack column).filter isBound =
    if stack.validation && !column.isPrimaryKey then boundLines column else [] := by
  have hbounds : (boundLines column).filter isBound = boundLines column :=
    List.filter_eq_self.mpr fun line => isBound_of_mem_boundLines column
  have hdeclaration : [declaration column].filter isBound = [] :=
    List.filter_cons_of_neg (not_isBound_join (by decide) _)
  simp only [fieldLines, List.filter_append, filter_isBound_commentLines, filter_isBound_schemaLines,
    filter_isBound_keyLines, filter_isBound_mappingLines, hdeclaration, List.nil_append,
    List.append_nil]
  split
  · exact hbounds
  · rfl

end

/-! ### The class -/

def accessorBlock (column : Column) : String := String.ofList (accessors column)

def print (project : Project) (table : Table) : String :=
  String.join [unlines (headLines project table),
    String.join (table.columns.map (fieldBlock project.stack)),
    if project.stack.lombokAccessors then "" else String.join (table.columns.map accessorBlock),
    "\x7d\n"]

end Entity

/-! ### The form of the templates -/

namespace Form

open Entity

def titleTerm : Term := .choice (.data .tableComment) (.data .tableComment) (.data .tableName)

def tableForm : Orm → List Piece
  | .mybatis => [plainText "public class "]
  | .mybatisPlus =>
    [plainText "@TableName(\"", printDatum .tableName, plainLines "\")" ["public class "]]
  | .jpa => [plainLines "@Entity" ["@Table(name = \""], printDatum .tableName,
      plainLines "\")" ["public class "]]

def annotationForm (orm : Orm) : List Piece :=
  [.branch (.data (.flag .lombokAccessors)) [plainLines "@Data" [""]] [],
    .branch (.data (.flag .apiDocs))
      [plainText "@Schema(description = \"", .print titleTerm, plainLines "\")" [""]] []]
  ++ tableForm orm

def headForm (orm : Orm) : List Piece :=
  [plainText "package ", printDatum .packageName, plainLines ".entity;" [""],
    .forImports [plainLines "" ["import "], printDatum .imported, plainText ";"],
    .branch (.data (.flag .lombokAccessors)) [plainLines "" ["import lombok.Data;"]] [],
    plainLines "" (libraryImports orm ++ ["", "/**", " * "]), .print titleTerm,
    plainLines "" [" */", ""]]
  ++ annotationForm orm ++ [printDatum .className, plainLines " \x7b" [""]]

def descriptionTerm : Term := .choice (.data .columnComment) (.data .columnComment) (.data .columnName)

def keyForm : Orm → List Piece
  | .mybatisPlus => [.branch (.data .isPrimaryKey)
      [plainLines "" ["    @TableId(value = \""], printDatum .columnName,
        plainText "\", type = IdType.AUTO)"] []]
  | .mybatis | .jpa => []

def sizeTerm : Term :=
  .choice (.data .maxLength) (.equal (.data .mappedType) (.constant (.text "String")))
    (.data .maxLength)

def boundCondition : Term :=
  .choice (.data (.flag .validation)) (.negation (.data .isPrimaryKey)) (.data (.flag .validation))

def boundForm : List Piece :=
  [.branch (.negation (.data .nullable)) [plainLines "" ["    @NotNull"]] [],
    .branch sizeTerm [plainLines "" ["    @Size(max = "], printDatum .maxLength, plainText ")"] []]

def mappingForm : Orm → List Piece
  | .jpa => [.branch (.data .isPrimaryKey)
      [plainLines "" ["    @Id", "    @GeneratedValue(strategy = GenerationType.IDENTITY)"]] [],
    plainLines "" ["    @Column(name = \""], printDatum .columnName, plainText "\"",
    .branch (.negation (.data .nullable)) [plainText ", nullable = false"] [],
    plainLines ")" ["    private "]]
  | .mybatis | .mybatisPlus => [plainLines "" ["    private "]]

def commentForm : Piece :=
  .branch (.data .columnComment)
    [plainLines "" ["    /** "], printDatum .columnComment, plainText " */"] []

def schemaForm : Piece :=
  .branch (.data (.flag .apiDocs))
    [plainLines "" ["    @Schema(description = \""], .print descriptionTerm, plainText "\")"] []

def fieldForm (orm : Orm) : List Piece :=
  [commentForm, schemaForm] ++ keyForm orm
  ++ [.branch boundCondition boundForm []]
  ++ mappingForm orm
  ++ [printDatum .mappedType, plainText " ", printDatum .propertyName, plainLines ";" [""]]

def capitalTerm : Term :=
  .joined (.upper (.slice (.data .propertyName) 0 (some 1)))
    (.joined (.slice (.data .propertyName) 1 none) (.constant (.text "")))

def accessorForm : List Piece :=
  [plainLines "" ["    public "], printDatum .mappedType, plainText " get", .print capitalTerm,
    plainLines "() \x7b" ["        return "], printDatum .propertyName,
    plainLines ";" ["    \x7d", "", "    public void set"], .print capitalTerm, plainText "(",
    printDatum .mappedType, plainText " ", printDatum .propertyName,
    plainLines ") \x7b" ["        this."], printDatum .propertyName, plainText " = ",
    printDatum .propertyName, plainLines ";" ["    \x7d", ""]]

def entityForm (orm : Orm) : List Piece :=
  headForm orm
  ++ [.forColumns always (fieldForm orm),
    .branch (.negation (.data (.flag .lombokAccessors))) [.forColumns always accessorForm] [],
    plainLines "\x7d" [""]]

theorem hasForm_entity (orm : Orm) :
    HasForm .ofTable (TableTemplate.entity orm).lines fun form => sameForm form (entityForm orm) := by
  cases orm
  all_goals
    simp only [entityForm, headForm, annotationForm, tableForm, fieldForm, commentForm, schemaForm,
      keyForm, mappingForm, boundForm, accessorForm, libraryImports, plainLines, plainText, printDatum,
      onNewLines_cons, onNewLines_nil, List.cons_append, List.nil_append]
    repeat rw [String.toList_ofList]
    apply Spelled.hasForm
    · simp only [TableTemplate.entity, Template.Shipped.Mybatis.entity,
        Template.Shipped.MybatisPlus.entity, Template.Shipped.Jpa.entity]
      repeat first | exact .last _ | apply Spelled.line
    · decide +kernel

/-! ### Its text -/

section

variable (focus : Focus)

theorem chars_commentForm : commentForm.chars focus = onNewLines (commentLines focus.column) := by
  have hcomment : (Term.data .columnComment).holds focus = !focus.column.comment.isEmpty := rfl
  by_cases hempty : focus.column.comment = "" <;>
    simp [commentForm, commentLines, hcomment, hempty, Datum.value, Template.printedText]

theorem chars_schemaForm :
    schemaForm.chars focus = onNewLines (schemaLines focus.project.stack focus.column) := by
  have hdocs : (Term.data (.flag .apiDocs)).holds focus = focus.project.stack.apiDocs := rfl
  have hdescription : descriptionTerm.text focus =
      if focus.column.comment = "" then focus.column.name else focus.column.comment :=
    text_choice_text focus rfl _
  cases hstack : focus.project.stack.apiDocs <;>
    simp [schemaForm, schemaLines, hdocs, hstack, hdescription]

theorem charsOf_keyForm (orm : Orm) :
    charsOf (keyForm orm) focus = onNewLines (keyLines focus.column orm) := by
  have hkey : (Term.data .isPrimaryKey).holds focus = focus.column.isPrimaryKey := rfl
  cases orm with
  | mybatis | jpa => rfl
  | mybatisPlus =>
      cases hcolumn : focus.column.isPrimaryKey <;>
        simp [keyForm, keyLines, hkey, hcolumn, Datum.value, Template.printedText]

theorem source_eq_string_iff {type : JavaType} : type.source = "String" ↔ type = .string := by
  cases type <;> decide

theorem holds_sizeTerm : sizeTerm.holds focus =
    focus.column.maxLength.any fun bound => bound ≠ 0 ∧ focus.column.javaType = .string := by
  have htext : ∀ s t : String, ((Value.text s == Value.text t) : Bool) = (s == t) := fun _ _ => rfl
  cases hmax : focus.column.maxLength with
  | none => simp [sizeTerm, Term.holds, Term.value, Datum.value, hmax, Value.optNumber, Template.truth]
  | some bound =>
      by_cases hzero : bound = 0 <;>
        simp [sizeTerm, Term.holds, Term.value, Datum.value, hmax, hzero, Value.optNumber,
          Template.truth, htext, source_eq_string_iff, Bool.beq_eq_decide_eq]

theorem charsOf_boundForm : charsOf boundForm focus = onNewLines (boundLines focus.column) := by
  have hnullable : (Term.negation (.data .nullable)).holds focus = !focus.column.nullable := rfl
  cases hmax : focus.column.maxLength with
  | none =>
      cases hnull : focus.column.nullable <;>
        simp [boundForm, boundLines, hnullable, holds_sizeTerm, hmax, hnull]
  | some bound =>
      by_cases hsize : bound ≠ 0 ∧ focus.column.javaType = .string <;>
        cases hnull : focus.column.nullable <;>
          simp [boundForm, boundLines, hnullable, holds_sizeTerm, hmax, hnull, hsize, Datum.value,
            Template.printedText, Value.optNumber]

theorem charsOf_mappingForm (orm : Orm) :
    charsOf (mappingForm orm) focus =
      onNewLines (mappingLines focus.column orm) ++ '\n' :: "    private ".toList := by
  have hkey : (Term.data .isPrimaryKey).holds focus = focus.column.isPrimaryKey := rfl
  have hnullable : (Term.negation (.data .nullable)).holds focus = !focus.column.nullable := rfl
  cases orm with
  | mybatis | mybatisPlus => simp [mappingForm, mappingLines]
  | jpa =>
      cases hcolumn : focus.column.isPrimaryKey <;> cases hnull : focus.column.nullable <;>
        simp [mappingForm, mappingLines, hkey, hnullable, hcolumn, hnull, Datum.value,
          Template.printedText]

theorem holds_boundCondition : boundCondition.holds focus =
    (focus.project.stack.validation && !focus.column.isPrimaryKey) := by
  have hvalidation : (Term.data (.flag .validation)).value focus =
      .bool focus.project.stack.validation := rfl
  rw [boundCondition, Term.holds, Term.value, hvalidation]
  cases focus.project.stack.validation <;> rfl

/-- The lines for the field of a column depend on the column and on the stack. -/
theorem charsOf_fieldForm :
    charsOf (fieldForm focus.project.stack.orm) focus =
      (fieldBlock focus.project.stack focus.column).toList := by
  have hbounds := holds_boundCondition focus
  rw [fieldBlock, unlines_cons, fieldLines]
  simp only [fieldForm, charsOf_append, charsOf_cons, charsOf_nil, chars_commentForm, chars_schemaForm,
    charsOf_keyForm, chars_branch, hbounds, charsOf_boundForm, onNewLines_ite, charsOf_mappingForm,
    chars_printDatum, chars_plainText, chars_plainLines, Datum.value, Template.printedText, declaration,
    onNewLines_append, onNewLines_cons, onNewLines_nil, String.toList_join, List.flatMap_cons,
    List.flatMap_nil, String.toList_empty, List.append_nil, List.append_assoc, List.nil_append,
    List.cons_append]

theorem charsOf_accessorForm :
    charsOf accessorForm focus = (accessorBlock focus.column).toList := by
  have hparts : accessorForm.mapM MemberPart.ofPiece? = some MemberPart.ofAccessors := by
    decide +kernel
  rw [MemberPart.charsOf_of_ofPieces? hparts, MemberPart.chars_ofAccessors, accessorBlock,
    String.toList_ofList]

theorem chars_importForm :
    (Piece.forImports [plainLines "" ["import "], printDatum .imported, plainText ";"]).chars focus =
      onNewLines ((Model.imports focus.project.stack focus.table).map fun path =>
        String.join ["import ", path, ";"]) := by
  rw [onNewLines, List.flatMap_map, Piece.chars, Focus.atImports]
  refine flatMap_places _ _ (fun path index => ?_) _
  simp [Datum.value, Template.printedText]

theorem charsOf_annotationForm :
    charsOf (annotationForm focus.project.stack.orm) focus =
      (unlines (annotationLines focus.project.stack focus.table)).toList ++ "public class ".toList := by
  have htitle : titleTerm.text focus = title focus.table := text_choice_text focus rfl _
  have hlombok : (Term.data (.flag .lombokAccessors)).holds focus =
      focus.project.stack.lombokAccessors := rfl
  have hdocs : (Term.data (.flag .apiDocs)).holds focus = focus.project.stack.apiDocs := rfl
  simp only [annotationForm, annotationLines]
  cases focus.project.stack.orm <;> cases hl : focus.project.stack.lombokAccessors <;>
    cases hd : focus.project.stack.apiDocs <;>
    simp [tableForm, tableLines, unlines, htitle, hlombok, hdocs, hl, hd, Datum.value,
      Template.printedText]

theorem charsOf_headForm :
    charsOf (headForm focus.project.stack.orm) focus =
      (unlines (headLines focus.project focus.table)).toList := by
  have htitle : titleTerm.text focus = title focus.table := text_choice_text focus rfl _
  have hlombok : (Term.data (.flag .lombokAccessors)).holds focus =
      focus.project.stack.lombokAccessors := rfl
  simp only [headForm, headLines, List.cons_append, List.nil_append, unlines_cons]
  simp only [charsOf_append, charsOf_cons, charsOf_nil, chars_importForm, chars_branch, chars_print,
    chars_printDatum, chars_plainText, chars_plainLines, charsOf_annotationForm, htitle, hlombok,
    onNewLines_ite, Datum.value, Template.printedText, onNewLines_append, onNewLines_cons,
    onNewLines_nil, ← onNewLines_newline, String.toList_join, List.flatMap_cons, List.flatMap_nil,
    String.toList_empty, List.append_nil, List.append_assoc, List.nil_append, List.cons_append]

end

/-- The text of the form is a head, the blocks of the columns and a brace. -/
theorem textOf_entityForm (project : Project) (table : Table) :
    textOf (entityForm project.stack.orm) { project, table } = Entity.print project table := by
  have hlombok : (Term.negation (.data (.flag .lombokAccessors))).holds { project, table } =
      !project.stack.lombokAccessors := rfl
  have hfield : ∀ place : Focus, place.project = project →
      charsOf (fieldForm project.stack.orm) place = (fieldBlock project.stack place.column).toList := by
    rintro place rfl
    exact charsOf_fieldForm place
  have hfields := chars_forColumns { project, table }
    (fun column => (fieldBlock project.stack column).toList) hfield always
  have haccessors := chars_forColumns { project, table }
    (fun column => (accessorBlock column).toList) (fun place _ => charsOf_accessorForm place) always
  have hhead := charsOf_headForm { project, table }
  have hclose : "\x7d\n".toList = "\x7d".toList ++ ['\n'] := by decide
  apply String.toList_inj.mp
  rw [toList_textOf, entityForm, Entity.print]
  simp only [charsOf_append, charsOf_cons, charsOf_nil, chars_branch, chars_plainLines, hhead, hlombok,
    hfields, haccessors, keptColumns_always]
  cases hstack : project.stack.lombokAccessors <;>
    simp [hclose, List.flatMap_map]

end Form

theorem renders_entity (project : Project) (table : Table) :
    Renders project table .entity (Entity.print project table) := by
  have hrenders :=
    renders_of_sameForm (shippedFor_entity project.stack) (hasForm_entity project.stack.orm) table
  rwa [textOf_entityForm] at hrenders

theorem exists_entity_members (project : Project) (table : Table) :
    ∃ content, Renders project table .entity content ∧
      DeclaresMembers project.stack table.columns content := by
  refine ⟨_, renders_entity project table, (unlines (Entity.headLines project table)).toList,
    table.columns.map fun column => (Entity.fieldBlock project.stack column).toList, ?_, ?_⟩
  · have haccessors : ∀ column, (Entity.accessorBlock column).toList = accessors column :=
      fun column => String.toList_ofList
    rw [Entity.print, ← List.flatMap_def]
    cases project.stack.lombokAccessors <;> simp [List.flatMap_map, haccessors]
  · rw [List.forall₂_map_right_iff, List.forall₂_same]
    exact fun column _ => Entity.fieldLine_suffix_fieldBlock project.stack column

end SchemaScaffold
