import SchemaScaffold.Proofs.Form.Bodies
import SchemaScaffold.Proofs.JavaNames
import SchemaScaffold.Proofs.PropertyNames

namespace SchemaScaffold

open Form Java

namespace Entity

def getter {α : Type} (type name : α) : Method α where
  annotations := []
  signature := { result := [.word type], name, parameters := [] }
  calls := []

def setter {α : Type} (void type name : α) : Method α where
  annotations := []
  signature := { result := [.word void], name, parameters := [[.word type]] }
  calls := []

section

variable {α β : Type} (f : α → β)

theorem map_getter (type name : α) : (getter type name).map f = getter (f type) (f name) := rfl

theorem map_setter (void type name : α) :
    (setter void type name).map f = setter (f void) (f type) (f name) := rfl

end

end Entity

/-! ### Accessors with gaps -/

namespace Form.MemberPart

def isName : MemberPart → Bool
  | plain _ => false
  | type | name | capital => true

def letters : MemberPart → List (Letter MemberPart)
  | plain chars => Letter.ofChars chars
  | part => [.gap part]

theorem filled_letters (column : Column) (parts : List MemberPart) :
    Letter.filled (chars column) (parts.flatMap letters) = parts.flatMap (chars column) := by
  induction parts with
  | nil => rfl
  | cons part rest ih =>
      rw [List.flatMap_cons, Letter.filled_append, ih, List.flatMap_cons]
      cases part <;> simp [letters, chars, Letter.chars]

def accessorLetters : List (Letter MemberPart) :=
  .char '\x7b' :: (ofAccessors.flatMap letters ++ [.char '\x7d'])

def getterName : List (Letter MemberPart) := Letter.ofChars "get".toList ++ [.gap capital]

def setterName : List (Letter MemberPart) := Letter.ofChars "set".toList ++ [.gap capital]

/-- Names stand in code. None of the words that they are part of is a modifier. -/
def accessorRules : GapRules MemberPart where
  mayStand part state := part.isName && state = .start
  isName := isName
  isClear word := [[.gap type], [.gap name], getterName, setterName].contains word

theorem exists_bodyTokens_accessorLetters :
    ∃ body, gappedBodyTokens? accessorRules accessorLetters = some body ∧
      methodsIn body = [Entity.getter [.gap type] getterName,
        Entity.setter (Letter.ofChars "void".toList) [.gap type] setterName] ∧
      fieldsIn body = [] := by
  have hread : (gappedBodyTokens? accessorRules accessorLetters).map
      (fun body => (methodsIn body, fieldsIn body)) = some ([Entity.getter [.gap type] getterName,
        Entity.setter (Letter.ofChars "void".toList) [.gap type] setterName], []) := by
    decide +kernel
  obtain ⟨body, hbody, hmembers⟩ := Option.map_eq_some_iff.mp hread
  exact ⟨body, hbody, congrArg Prod.fst hmembers, congrArg Prod.snd hmembers⟩

end Form.MemberPart

/-! ### Names in the gaps -/

theorem modifiers_subset_javaKeywords :
    ∀ modifier ∈ Java.modifiers, String.ofList modifier ∈ Naming.javaKeywords := by decide

section

variable {column : Column} (hbuilt : column.IsBuilt)
include hbuilt

theorem isNameChar_of_mem_property {c : Char} (hc : c ∈ column.propertyName.toList) :
    Text.isNameChar c := by
  rw [hbuilt.propertyName_eq.1] at hc
  exact Naming.isNameChar_of_mem_propertyName hc

theorem isNameChar_of_mem_accessorName {c : Char} (hc : c ∈ (accessorName column.propertyName).toList) :
    Text.isNameChar c := by
  rw [accessorName, String.toList_ofList] at hc
  have hchars := fun d (hd : d ∈ column.propertyName.toList) => isNameChar_of_mem_property hbuilt hd
  generalize column.propertyName.toList = property at hc hchars
  cases property with
  | nil => cases hc
  | cons first rest =>
      rw [Naming.withCapital, List.mem_append] at hc
      rcases hc with hc | hc
      · exact Text.isNameChar_of_mem_upperChar (hchars first List.mem_cons_self) hc
      · exact hchars c (List.mem_cons_of_mem _ hc)

theorem property_notMem_modifiers : column.propertyName.toList ∉ Java.modifiers := by
  intro hmem
  have hkeyword := modifiers_subset_javaKeywords _ hmem
  rw [String.ofList_toList, hbuilt.propertyName_eq.1] at hkeyword
  exact Naming.avoidKeyword_notMem _ hkeyword

namespace Form.MemberPart

theorem isGapChar_of_mem_chars {part : MemberPart} (hpart : part.isName) {c : Char}
    (hc : c ∈ part.chars column) : isGapChar c ∧ c ≠ '.' := by
  have hname : Text.isNameChar c → isGapChar c ∧ c ≠ '.' := by
    intro h
    refine ⟨isGapChar_of_isNameChar h, ?_⟩
    rintro rfl
    exact absurd h (by decide)
  cases part with
  | plain => cases hpart
  | type =>
      have htype : ∀ type : JavaType,
          type.source.toList.all fun c => isGapChar c && decide (c ≠ '.') := by
        intro type
        cases type <;> decide
      simpa using List.all_eq_true.mp (htype _) c hc
  | name => exact hname (isNameChar_of_mem_property hbuilt hc)
  | capital => exact hname (isNameChar_of_mem_accessorName hbuilt hc)

theorem obeys_accessorRules : accessorRules.Obeys (chars column) := by
  constructor
  · intro part state hstand
    obtain ⟨hpart, hstate⟩ := Bool.and_eq_true_iff.mp hstand
    obtain rfl := of_decide_eq_true hstate
    have hgap : (part.chars column).all isGapChar :=
      List.all_eq_true.mpr fun c hc => (isGapChar_of_mem_chars hbuilt hpart hc).1
    exact run_start hgap
  · intro part hstand hbrace
    obtain ⟨hpart, -⟩ := Bool.and_eq_true_iff.mp hstand
    exact absurd (isGapChar_of_mem_chars hbuilt hpart hbrace).1 (by decide)
  · intro part hpart c hc
    obtain ⟨hgap, hdot⟩ := isGapChar_of_mem_chars hbuilt hpart hc
    exact kind_of_isGapChar hgap hdot
  · intro word hclear
    have hmethod : ∀ start ∈ ["get".toList, "set".toList], ∀ modifier ∈ Java.modifiers,
        ¬start <+: modifier := by decide
    simp only [accessorRules, List.contains_eq_mem, decide_eq_true_eq, List.mem_cons,
      List.not_mem_nil, or_false] at hclear
    rw [List.contains_eq_mem, decide_eq_false_iff_not]
    rcases hclear with rfl | rfl | rfl | rfl
    · have htype : ∀ type : JavaType,
          type.source.toList ≠ [] ∧ type.source.toList ∉ Java.modifiers := by
        intro type
        cases type <;> decide
      simpa [Letter.chars, chars] using htype column.javaType
    · have hne : column.propertyName.toList ≠ [] := by
        simpa using hbuilt.propertyName_eq.2
      simpa [Letter.chars, chars] using And.intro hne (property_notMem_modifiers hbuilt)
    · rw [getterName, Letter.filled_append, Letter.filled_ofChars]
      refine ⟨by simp, fun hmem => ?_⟩
      exact hmethod _ (by decide) _ hmem (List.prefix_append _ _)
    · rw [setterName, Letter.filled_append, Letter.filled_ofChars]
      refine ⟨by simp, fun hmem => ?_⟩
      exact hmethod _ (by decide) _ hmem (List.prefix_append _ _)

end Form.MemberPart

/-- The accessors of a column are one method that reads its field and one that writes it. -/
theorem members_of_accessorBlock :
    let type := column.javaType.source
    let name := accessorName column.propertyName
    let source := String.join ["\x7b", Entity.accessorBlock column, "\x7d"]
    Java.methods source =
      [Entity.getter type ("get" ++ name), Entity.setter "void" type ("set" ++ name)] ∧
    Java.fields source = [] := by
  intro type name source
  obtain ⟨body, hbody, hmethods, hfields⟩ := MemberPart.exists_bodyTokens_accessorLetters
  have hsource : source.toList =
      Letter.filled (MemberPart.chars column) MemberPart.accessorLetters := by
    simp [source, Entity.accessorBlock, MemberPart.accessorLetters, MemberPart.filled_letters,
      MemberPart.chars_ofAccessors, Letter.chars]
  obtain ⟨hread, hnone⟩ := members_of_bodyTokens
    (bodyTokens_filled (MemberPart.obeys_accessorRules hbuilt) hbody hsource)
  have htype : String.ofList (Letter.filled (MemberPart.chars column) [.gap .type]) = type := by
    simp [type, Letter.chars, MemberPart.chars]
  have hname : ∀ start : String, String.ofList (Letter.filled (MemberPart.chars column)
      (Letter.ofChars start.toList ++ [.gap .capital])) = start ++ name := by
    intro start
    simp [name, Letter.chars, MemberPart.chars, String.ofList_append]
  have hvoid : String.ofList (Letter.filled (MemberPart.chars column)
      (Letter.ofChars "void".toList)) = "void" := by
    rw [Letter.filled_ofChars, String.ofList_toList]
  refine ⟨?_, by rw [hnone, hfields, List.map_nil]⟩
  rw [hread, hmethods, List.map_cons, List.map_cons, List.map_nil, Entity.map_getter,
    Entity.map_setter, MemberPart.getterName, MemberPart.setterName, htype, hvoid, hname, hname]

/-- Only the first character of a property is made a capital in the names of its accessors. -/
theorem exists_accessorName_eq : ∃ first rest, column.propertyName.toList = first :: rest ∧
    (accessorName column.propertyName).toList = Text.upperChar first ++ rest := by
  obtain ⟨first, rest, hproperty⟩ := List.exists_cons_of_ne_nil
    (mt String.toList_eq_nil_iff.mp hbuilt.propertyName_eq.2)
  exact ⟨first, rest, hproperty, by rw [accessorName, String.toList_ofList, hproperty]; rfl⟩

end

/-! ### The entity of a table -/

open Entity in
/-- An entity is made of the blocks of its columns in the order of declaration. The block of a field
declares it, checks its values only if they are to be checked, and is the same for stacks with the same
framework and the same of these features; the block of its accessors declares one method that reads it
and one that writes it. -/
theorem blocks_of_entity (project : Project) {table : Table}
    (hbuilt : ∀ column ∈ table.columns, column.IsBuilt) :
    Renders project table .entity (String.join [unlines (headLines project table),
        String.join (table.columns.map (fieldBlock project.stack)),
        if project.stack.lombokAccessors then "" else String.join (table.columns.map accessorBlock),
        "\x7d\n"]) ∧
      (headLines project table).getLast? =
        some (String.join ["public class ", table.className, " \x7b"]) ∧
      ∀ column ∈ table.columns,
        (∀ other : Stack, other.orm = project.stack.orm → other.apiDocs = project.stack.apiDocs →
          other.validation = project.stack.validation →
          fieldBlock other column = fieldBlock project.stack column) ∧
        fieldLine column <:+ (fieldBlock project.stack column).toList ∧
        (fieldLines project.stack column).filter isBound =
          (if project.stack.validation && !column.isPrimaryKey then boundLines column else []) ∧
        Java.methods (String.join ["\x7b", accessorBlock column, "\x7d"]) =
          [getter column.javaType.source ("get" ++ accessorName column.propertyName),
            setter "void" column.javaType.source ("set" ++ accessorName column.propertyName)] ∧
        Java.fields (String.join ["\x7b", accessorBlock column, "\x7d"]) = [] ∧
        ∃ first rest, column.propertyName.toList = first :: rest ∧
          (accessorName column.propertyName).toList = Text.upperChar first ++ rest := by
  refine ⟨renders_entity project table, List.getLast?_concat, fun column hcolumn => ?_⟩
  obtain ⟨hmethods, hfields⟩ := members_of_accessorBlock (hbuilt column hcolumn)
  exact ⟨fun other => fieldBlock_congr project.stack column,
    fieldLine_suffix_fieldBlock project.stack column, filter_isBound_fieldLines project.stack column,
    hmethods, hfields, exists_accessorName_eq (hbuilt column hcolumn)⟩

open Entity in
theorem blocks_of_entity_users :
    let name := ColumnDraft.column
      { name := "user_name", baseType := "varchar", length := some "50", nullable := false }
    let users := Table.of "users" none [keyColumn, name]
    (∀ column ∈ users.columns, column.IsBuilt) ∧
      (fieldLines shop.stack keyColumn).filter isBound = [] ∧
      (fieldLines shop.stack name).filter isBound = ["    @NotNull", "    @Size(max = 50)"] ∧
      Java.methods (String.join ["\x7b", accessorBlock name, "\x7d"]) =
        [getter "String" "getUserName", setter "void" "String" "setUserName"] := by
  intro name users
  have hkey : keyColumn.IsBuilt := ⟨_, (ColumnDraft.build_eq_ok_iff _ _).mpr ⟨by decide, rfl⟩⟩
  have hname : name.IsBuilt := ⟨_, (ColumnDraft.build_eq_ok_iff _ _).mpr ⟨by decide, rfl⟩⟩
  have hcolumns : users.columns = [keyColumn, name] := Table.of_columns ..
  have hbuilt : ∀ column ∈ users.columns, column.IsBuilt := by
    rw [hcolumns]
    exact List.forall_mem_cons.mpr ⟨hkey, List.forall_mem_singleton.mpr hname⟩
  obtain ⟨-, -, hblocks⟩ := blocks_of_entity shop hbuilt
  rw [hcolumns, List.forall_mem_cons, List.forall_mem_singleton] at hblocks
  obtain ⟨⟨-, -, hkeyBounds, -⟩, -, -, hbounds, hmethods, -⟩ := hblocks
  have hlines : boundLines name = ["    @NotNull", "    @Size(max = 50)"] := by decide +kernel
  refine ⟨hbuilt, hkeyBounds.trans (if_neg (by decide)), ?_, hmethods.trans ?_⟩
  · exact (hbounds.trans (if_pos (by decide))).trans hlines
  · decide +kernel

end SchemaScaffold
