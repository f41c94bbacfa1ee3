import SchemaScaffold.Proofs.ColumnDrafts
import SchemaScaffold.Proofs.CommentClauses
import SchemaScaffold.Proofs.SchemaReading

namespace SchemaScaffold

open SchemaScaffold.Text

namespace Schema

open Sql (ColumnDef ColumnOption)

def settingOf : ColumnOption → Option ColumnSetting
  | .notNull => some (.nullable false)
  | .null => some (.nullable true)
  | .default expr => some (.defaultValue expr)
  | .primaryKey => some (.primaryKey true)
  | .comment text => some (.comment text)
  | .other => none

def declaredArguments (declaration : ColumnDef) : Option String :=
  (splitType declaration.dataType.toList).2.map String.ofList

/-- The default expression that counts: the last one that is declared. -/
def declaredDefault (declaration : ColumnDef) : Option String :=
  (declaration.options.filterMap fun
    | .default expr => some expr
    | _ => none).getLast?

def settingsOf (declaration : ColumnDef) (late : Option String) : List ColumnSetting :=
  ((declaredArguments declaration).map .length).toList ++
    declaration.options.filterMap settingOf ++ (late.map .comment).toList

theorem foldl_applyOption_eq_setAll (options : List ColumnOption) (draft : ColumnDraft) :
    options.foldl applyOption draft = draft.setAll (options.filterMap settingOf) := by
  induction options generalizing draft with
  | nil => rfl
  | cons option rest ih =>
      rw [List.foldl_cons, ih]
      cases option <;> rfl

theorem columnDraft_eq_setAll (declaration : ColumnDef) (late : Option String) :
    columnDraft declaration late =
      (ColumnDraft.start declaration.name.text
        (String.ofList (splitType declaration.dataType.toList).1)).setAll
          (settingsOf declaration late) := by
  unfold columnDraft settingsOf declaredArguments
  rcases splitType declaration.dataType.toList with ⟨base, arguments⟩
  simp only [foldl_applyOption_eq_setAll, ColumnDraft.setAll, List.foldl_append]
  cases arguments <;> cases late <;> rfl

theorem defaultValue?_settingOf (option : ColumnOption) :
    (settingOf option).bind ColumnSetting.defaultValue? =
      match option with
      | .default expr => some expr
      | _ => none := by
  cases option <;> rfl

theorem length?_settingOf (option : ColumnOption) :
    (settingOf option).bind ColumnSetting.length? = none := by
  cases option <;> rfl

theorem defaultValue_columnDraft (declaration : ColumnDef) (late : Option String) :
    (columnDraft declaration late).defaultValue =
      (declaredDefault declaration).map (without isTextQuote) := by
  have hlast : (settingsOf declaration late).filterMap ColumnSetting.defaultValue? =
      declaration.options.filterMap fun
        | .default expr => some expr
        | _ => none := by
    unfold settingsOf
    simp only [List.filterMap_append, List.filterMap_filterMap, defaultValue?_settingOf]
    cases declaredArguments declaration <;> cases late <;>
      simp [List.filterMap_cons, ColumnSetting.defaultValue?]
  rw [columnDraft_eq_setAll, ColumnDraft.setAll_start]
  simp only [ColumnDraft.ofLast, ColumnSetting.lastValues, hlast, declaredDefault]

/-- A declared column records the arguments of its type without blanks. -/
theorem length_columnDraft (declaration : ColumnDef) (late : Option String) :
    (columnDraft declaration late).length =
      (declaredArguments declaration).bind ColumnDraft.arguments? := by
  have hlast : (settingsOf declaration late).filterMap ColumnSetting.length? =
      (declaredArguments declaration).toList := by
    unfold settingsOf
    simp only [List.filterMap_append, List.filterMap_filterMap, length?_settingOf]
    cases declaredArguments declaration <;> cases late <;>
      simp [List.filterMap_cons, ColumnSetting.length?]
  rw [columnDraft_eq_setAll, ColumnDraft.setAll_start]
  simp only [ColumnDraft.ofLast, ColumnSetting.lastValues, hlast]
  cases declaredArguments declaration <;> rfl

/-! ### Literals as defaults -/

/-- A text as the literal that the dialect prints: between apostrophes, with those inside doubled.
The dialect itself does not double an apostrophe that something before or behind it escapes
already. -/
def IsLiteralOf (text literal : String) : Prop :=
  literal.toList = '\'' :: (Script.doubled '\'' text.toList ++ ['\'']) ∨
    literal = Sql.Literal.write '\'' text

theorem filter_doubled {quote : Char} {p : Char → Bool} (hquote : p quote = false)
    (text : List Char) : (Script.doubled quote text).filter p = text.filter p := by
  induction text with
  | nil => rfl
  | cons c rest ih =>
      rw [Script.doubled, List.flatMap_cons, ← Script.doubled, List.filter_append, ih]
      by_cases hc : c = quote
      · simp [hc, hquote]
      · rw [if_neg hc, ← List.filter_append, List.singleton_append]

theorem filter_escapeQuotes {quote : Char} {p : Char → Bool} (hquote : p quote = false)
    (before : Char) (text : List Char) :
    (Sql.Literal.escapeQuotes quote before text).filter p = text.filter p := by
  fun_induction Sql.Literal.escapeQuotes quote before text <;> simp_all [List.filter_cons]

theorem IsLiteralOf.without_eq {text literal : String} (h : IsLiteralOf text literal) :
    without isTextQuote literal = without isTextQuote text := by
  have hquote : (!isTextQuote '\'') = false := by decide
  obtain hliteral | rfl := h
  · simp [without, hliteral, hquote, filter_doubled (p := fun c => !isTextQuote c) hquote]
  · simp [without, Sql.Literal.write, hquote,
      filter_escapeQuotes (p := fun c => !isTextQuote c) hquote]

theorem without_eq_self_iff {p : Char → Bool} {text : String} :
    without p text = text ↔ ∀ c ∈ text.toList, p c = false := by
  rw [without, ← String.toList_inj, String.toList_ofList, List.filter_eq_self]
  simp only [Bool.not_eq_true']

/-- The default that is recorded of a literal is its text without quotes of either kind. It is the
text itself exactly when there are none in it. -/
theorem default_text_recorded_iff {declaration : ColumnDef} {late : Option String} {column : Column}
    {text literal : String} (hliteral : IsLiteralOf text literal)
    (hdeclared : declaredDefault declaration = some literal)
    (hbuild : (columnDraft declaration late).build = .ok column) :
    column.defaultValue = some (without isTextQuote text) ∧
      (column.defaultValue = some text ↔ ∀ c ∈ text.toList, c ≠ '\'' ∧ c ≠ '"') := by
  have hquote : ∀ c, isTextQuote c = false ↔ c ≠ '\'' ∧ c ≠ '"' := by simp [isTextQuote]
  obtain ⟨-, rfl⟩ := (ColumnDraft.build_eq_ok_iff _ _).mp hbuild
  have hdefault : (columnDraft declaration late).column.defaultValue =
      some (without isTextQuote text) := by
    rw [ColumnDraft.column, defaultValue_columnDraft, hdeclared, Option.map_some,
      hliteral.without_eq]
  refine ⟨hdefault, ?_⟩
  simp only [hdefault, Option.some.injEq, without_eq_self_iff, hquote]

/-- Of two defaults the later one counts, and blanks in it stay. -/
theorem default_text_recorded_later :
    let declaration : ColumnDef :=
      ⟨⟨"note", none⟩, "TEXT", [.default "'it''s'", .notNull, .default "' 5\\% '"]⟩
    IsLiteralOf " 5\\% " "' 5\\% '" ∧ declaredDefault declaration = some "' 5\\% '" ∧
      ∃ column, (columnDraft declaration none).build = .ok column ∧
        column.defaultValue = some " 5\\% " := by
  intro declaration
  have hliteral : IsLiteralOf " 5\\% " "' 5\\% '" := .inl (by decide)
  have hdeclared : declaredDefault declaration = some "' 5\\% '" := rfl
  have hname : Naming.propertyName "note" ≠ "" := by decide
  have hbuild : (columnDraft declaration none).build =
      .ok (columnDraft declaration none).column := by
    rw [build_columnDraft_eq]
    exact if_neg hname
  exact ⟨hliteral, hdeclared, _, hbuild,
    (default_text_recorded_iff hliteral hdeclared hbuild).2.mpr (by simp)⟩

def possessiveScript : String := "CREATE TABLE t (a varchar(10) DEFAULT 'it''s')"

/-- The apostrophe inside a default is dropped with those around it. -/
theorem possessive_default_without_apostrophe :
    IsLiteralOf "it's" "'it''s'" ∧
      (definitions (reader .mysql) possessiveScript).map (fun definition =>
        definition.1.columns.map declaredDefault) = [[some "'it''s'"]] ∧
      ∃ table, parse .mysql possessiveScript = .ok [table] ∧
        table.columns.map (·.defaultValue) = [some "its"] := by
  have hstatements : Script.statements possessiveScript = [possessiveScript] := by decide +kernel
  have hparse : (parse .mysql possessiveScript).toOption.map
      (·.map fun table => table.columns.map (·.defaultValue)) = some [[some "its"]] := by
    simp only [parse, parseWith, isBlankText_eq, readScript, hstatements]
    decide +kernel
  refine ⟨.inl (by decide), ?_, exists_parse_of_map hparse⟩
  simp only [definitions, parsed, hstatements]
  decide +kernel

end Schema

end SchemaScaffold
