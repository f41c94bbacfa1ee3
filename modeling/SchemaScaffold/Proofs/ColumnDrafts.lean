import Mathlib.Data.Nat.Digits.Defs
import SchemaScaffold.Proofs.LowerCase
import SchemaScaffold.Proofs.Tables

/-!
# Drafts of columns

A draft is filled in by settings, in any order and each of them any number of times. The last setting
of each kind counts and no other one does, so a draft that is built can be told from five values. What
a setting records is free of blanks and quotes, and stays so.
-/

namespace SchemaScaffold

open SchemaScaffold.Text

inductive ColumnSetting where
  | length (arguments : String)
  | nullable (nullable : Bool)
  | primaryKey (isPrimaryKey : Bool)
  | defaultValue (value : String)
  | comment (comment : String)

/-- The value that was set last for each field, if there is one. -/
@[ext]
structure LastValues where
  length : Option String := none
  nullable : Option Bool := none
  primaryKey : Option Bool := none
  defaultValue : Option String := none
  comment : Option String := none

namespace ColumnSetting

def length? : ColumnSetting → Option String
  | length arguments => some arguments
  | _ => none

def nullable? : ColumnSetting → Option Bool
  | nullable value => some value
  | _ => none

def primaryKey? : ColumnSetting → Option Bool
  | primaryKey value => some value
  | _ => none

def defaultValue? : ColumnSetting → Option String
  | defaultValue value => some value
  | _ => none

def comment? : ColumnSetting → Option String
  | comment value => some value
  | _ => none

def lastValues (settings : List ColumnSetting) : LastValues where
  length := (settings.filterMap length?).getLast?
  nullable := (settings.filterMap nullable?).getLast?
  primaryKey := (settings.filterMap primaryKey?).getLast?
  defaultValue := (settings.filterMap defaultValue?).getLast?
  comment := (settings.filterMap comment?).getLast?

end ColumnSetting

def LastValues.record (last : LastValues) : ColumnSetting → LastValues
  | .length arguments => { last with length := some arguments }
  | .nullable value => { last with nullable := some value }
  | .primaryKey value => { last with primaryKey := some value }
  | .defaultValue value => { last with defaultValue := some value }
  | .comment value => { last with comment := some value }

theorem ColumnSetting.lastValues_append_singleton (settings : List ColumnSetting)
    (setting : ColumnSetting) :
    lastValues (settings ++ [setting]) = (lastValues settings).record setting := by
  cases setting <;> simp [lastValues, LastValues.record, length?, nullable?, primaryKey?,
    defaultValue?, comment?, List.getLast?_append]

def Text.isTextQuote (c : Char) : Bool := c == '\'' || c == '"'

namespace ColumnDraft

def start (name baseType : String) : ColumnDraft := { name, baseType }

def set (draft : ColumnDraft) : ColumnSetting → ColumnDraft
  | .length arguments => draft.withLength arguments
  | .nullable value => draft.withNullable value
  | .primaryKey value => draft.withPrimaryKey value
  | .defaultValue value => draft.withDefault value
  | .comment value => draft.withComment value

def setAll (draft : ColumnDraft) (settings : List ColumnSetting) : ColumnDraft :=
  settings.foldl set draft

def arguments? (arguments : String) : Option String :=
  let kept := Text.without isBlank arguments
  if kept.isEmpty then none else some kept

def ofLast (name baseType : String) (last : LastValues) : ColumnDraft where
  name := name
  baseType := baseType
  length := last.length.bind arguments?
  nullable := last.nullable.getD true
  isPrimaryKey := last.primaryKey.getD false
  defaultValue := last.defaultValue.map (Text.without isTextQuote)
  comment := Text.withoutApostrophes (last.comment.getD "")

@[simp]
theorem ofLast_name (name baseType : String) (last : LastValues) :
    (ofLast name baseType last).name = name := rfl

theorem set_ofLast (name baseType : String) (last : LastValues) (setting : ColumnSetting) :
    (ofLast name baseType last).set setting = ofLast name baseType (last.record setting) := by
  cases setting <;> rfl

theorem setAll_start (name baseType : String) (settings : List ColumnSetting) :
    (start name baseType).setAll settings =
      ofLast name baseType (ColumnSetting.lastValues settings) := by
  induction settings using List.reverseRecOn with
  | nil => rfl
  | append_singleton settings setting ih =>
      rw [setAll] at ih ⊢
      rw [List.foldl_append, ih, List.foldl_cons, List.foldl_nil, set_ofLast,
        ColumnSetting.lastValues_append_singleton]

/-! ### What settings record -/

theorem mem_toList_without {p : Char → Bool} {s : String} {c : Char} :
    c ∈ (Text.without p s).toList ↔ c ∈ s.toList ∧ p c = false := by
  rw [Text.without, String.toList_ofList, List.mem_filter, Bool.not_eq_true']

theorem of_arguments?_eq_some {arguments length : String} (h : arguments? arguments = some length) :
    length ≠ "" ∧ ∀ c ∈ length.toList, isBlank c = false := by
  simp only [arguments?] at h
  split at h
  case isTrue => simp at h
  case isFalse hne =>
    obtain rfl := Option.some.inj h
    exact ⟨fun hempty => hne (String.isEmpty_iff.mpr hempty),
      fun c hc => (mem_toList_without.mp hc).2⟩

/-! ### The Java type of a type with arguments -/

theorem takeWhile_append_cons {p : Char → Bool} {stop : Char} (hstop : p stop = false)
    (chars rest : List Char) : (chars ++ stop :: rest).takeWhile p = chars.takeWhile p := by
  induction chars with
  | nil => simp [hstop]
  | cons c others ih => simp only [List.cons_append, List.takeWhile_cons, ih]

/-- The arguments behind a type in lower case do not count among its words. -/
theorem baseWords_append_arguments (baseType arguments : String) :
    JavaType.baseWords (lower (trim baseType) ++ "(" ++ arguments ++ ")") =
      JavaType.baseWords (lower (trim baseType)) := by
  obtain ⟨base, hbase⟩ : ∃ base, base = lowerList (trimList baseType.toList) := ⟨_, rfl⟩
  have hlower : (lower (trim baseType)).toList = base := by
    rw [lower, trim, String.toList_ofList, String.toList_ofList, hbase]
  have htrim : trimList base = base := by
    rw [hbase]
    exact trimList_lowerList (trimList_trimList _)
  have hwhole : trimList (base ++ '(' :: (arguments.toList ++ [')'])) =
      base ++ '(' :: (arguments.toList ++ [')']) := by
    rw [trimList_eq_self_iff] at htrim ⊢
    constructor
    · cases base with
      | nil => simp; decide
      | cons c rest => simpa using htrim.1
    · rw [← List.cons_append, ← List.append_assoc, List.getLast?_concat]
      intro c hc
      obtain rfl := Option.some.inj hc
      decide
  have hcase : lowerList (base ++ '(' :: (arguments.toList ++ [')'])) =
      base ++ '(' :: lowerFrom ('(' :: base.reverse) (arguments.toList ++ [')']) := by
    rw [hbase, lowerList_lowerList_append]
    rfl
  have hagain : lowerList base = base := by rw [hbase, lowerList_lowerList]
  have hchars : (lower (trim baseType) ++ "(" ++ arguments ++ ")").toList =
      base ++ '(' :: (arguments.toList ++ [')']) := by
    simp [String.toList_append, hlower]
  rw [JavaType.baseWords, JavaType.baseWords, hchars, hwhole, hcase, hlower, htrim, hagain,
    takeWhile_append_cons (by decide)]

theorem ofColumnType_append_arguments (baseType arguments : String) :
    JavaType.ofColumnType (lower (trim baseType) ++ "(" ++ arguments ++ ")") =
      JavaType.ofColumnType (lower (trim baseType)) := by
  rw [JavaType.ofColumnType, JavaType.ofColumnType, baseWords_append_arguments]

/-! ### Numbers -/

def IsNumeral (chars : List Char) (n : Nat) : Prop :=
  ∃ digits, (chars = digits ∨ chars = '+' :: digits) ∧ digits ≠ [] ∧ (∀ c ∈ digits, c.isDigit) ∧
    n = Nat.ofDigits 10 (digits.reverse.map digitValue)

theorem digitsNumber_eq_ofDigits (digits : List Char) :
    digitsNumber digits = Nat.ofDigits 10 (digits.reverse.map digitValue) := by
  induction digits using List.reverseRecOn with
  | nil => rfl
  | append_singleton digits c ih =>
      rw [digitsNumber, List.foldl_append, ← digitsNumber, ih, List.foldl_cons, List.foldl_nil,
        List.reverse_append, List.reverse_singleton, List.singleton_append, List.map_cons,
        Nat.ofDigits_cons, Nat.add_comm]

theorem digits?_eq_some_iff {chars : List Char} {n : Nat} : digits? chars = some n ↔
    chars ≠ [] ∧ (∀ c ∈ chars, c.isDigit) ∧ n = Nat.ofDigits 10 (chars.reverse.map digitValue) := by
  rw [digits?, digitsNumber_eq_ofDigits]
  by_cases h : chars = [] ∨ ¬∀ c ∈ chars, c.isDigit
  · rw [if_pos (by simpa [← Bool.not_eq_true] using h)]
    simp only [reduceCtorEq, false_iff]
    tauto
  · rw [if_neg (by simpa [← Bool.not_eq_true] using h), Option.some.injEq, eq_comm]
    tauto

theorem natural?_eq_some_iff {chars : List Char} {n : Nat} :
    natural? chars = some n ↔ IsNumeral chars n := by
  unfold natural?
  split
  case h_1 rest =>
    rw [digits?_eq_some_iff]
    constructor
    · exact fun ⟨hne, hdigits, hn⟩ => ⟨rest, .inr rfl, hne, hdigits, hn⟩
    · rintro ⟨digits, rfl | hsigned, hne, hdigits, hn⟩
      · exact absurd (hdigits '+' List.mem_cons_self) (by decide)
      · obtain rfl := (List.cons.inj hsigned).2
        exact ⟨hne, hdigits, hn⟩
  case h_2 hunsigned =>
    rw [digits?_eq_some_iff]
    constructor
    · exact fun ⟨hne, hdigits, hn⟩ => ⟨chars, .inl rfl, hne, hdigits, hn⟩
    · rintro ⟨digits, rfl | hsigned, hne, hdigits, hn⟩
      · exact ⟨hne, hdigits, hn⟩
      · exact absurd hsigned (hunsigned digits)

theorem maxLength?_eq_some_iff {length : String} {n : Nat} :
    maxLength? length = some n ↔ n < 2 ^ 32 ∧ IsNumeral length.toList n := by
  rw [maxLength?, Option.filter_eq_some_iff, natural?_eq_some_iff, decide_eq_true_eq, and_comm]
  rfl

end ColumnDraft

/-! ### Built columns -/

/-- What a built column tells of the base type that it was drafted with, and its fields of each
other. -/
structure Column.IsRecordOf (column : Column) (baseType : String) : Prop where
  rawType : column.rawType = lower (trim baseType) ++
    match column.length with
    | some length => "(" ++ length ++ ")"
    | none => ""
  length : ∀ length ∈ column.length, length ≠ "" ∧ ∀ c ∈ length.toList, isBlank c = false
  javaType : JavaType.ofColumnType column.rawType = column.javaType
  maxLength : ∀ n, column.maxLength = some n ↔
    n < 2 ^ 32 ∧ ∃ length ∈ column.length, ColumnDraft.IsNumeral length.toList n
  defaultValue : ∀ value ∈ column.defaultValue, ∀ c ∈ value.toList, isTextQuote c = false
  comment : '\'' ∉ column.comment.toList

namespace ColumnDraft

theorem build_eq_error_iff (draft : ColumnDraft) (error : Error) :
    draft.build = .error error ↔
      Naming.propertyName draft.name = "" ∧ error = .schema (.columnName draft.name) := by
  rw [build_eq]
  split <;> rename_i hname
  · simp [hname, eq_comm]
  · simp [hname]

/-- A draft that records arguments without blanks and texts without quotes. -/
structure IsClean (draft : ColumnDraft) : Prop where
  length : ∀ length ∈ draft.length, length ≠ "" ∧ ∀ c ∈ length.toList, isBlank c = false
  defaultValue : ∀ value ∈ draft.defaultValue, ∀ c ∈ value.toList, isTextQuote c = false
  comment : '\'' ∉ draft.comment.toList

theorem isClean_ofLast (name baseType : String) (last : LastValues) :
    (ofLast name baseType last).IsClean where
  length length hlength := by
    obtain ⟨arguments, -, hkept⟩ := Option.bind_eq_some_iff.mp hlength
    exact of_arguments?_eq_some hkept
  defaultValue value hvalue c hc := by
    obtain ⟨given, -, rfl⟩ := Option.map_eq_some_iff.mp hvalue
    exact (mem_toList_without.mp hc).2
  comment hc := absurd (mem_toList_without.mp hc).2 (by decide)

theorem IsClean.isRecordOf {draft : ColumnDraft} (h : draft.IsClean) :
    draft.column.IsRecordOf draft.baseType where
  rawType := by
    simp only [column]
    cases draft.length <;> simp [String.append_assoc]
  length := by simpa only [column] using h.length
  javaType := by
    simp only [column]
    cases draft.length with
    | none => simp only
    | some length => exact ofColumnType_append_arguments draft.baseType length
  maxLength n := by
    simp only [column, Option.bind_eq_some_iff, maxLength?_eq_some_iff, Option.mem_def]
    tauto
  defaultValue := by simpa only [column] using h.defaultValue
  comment := by simpa only [column] using h.comment

end ColumnDraft

/-- A name and a type become a column by settings, whichever they are and in whatever order, unless
the name leaves no property name; only the last setting of each kind has a part in it. -/
theorem build_setAll (name baseType : String) (settings others : List ColumnSetting) :
    (ColumnSetting.lastValues settings = ColumnSetting.lastValues others →
      ((ColumnDraft.start name baseType).setAll settings).build =
        ((ColumnDraft.start name baseType).setAll others).build) ∧
    (∀ error, ((ColumnDraft.start name baseType).setAll settings).build = .error error ↔
      Naming.propertyName name = "" ∧ error = .schema (.columnName name)) ∧
    (Naming.propertyName name ≠ "" →
      ∃ column, ((ColumnDraft.start name baseType).setAll settings).build = .ok column) ∧
    ∀ column, ((ColumnDraft.start name baseType).setAll settings).build = .ok column →
      column.IsRecordOf baseType := by
  simp only [ColumnDraft.setAll_start]
  refine ⟨?_, ?_, ?_, ?_⟩
  · intro hlast
    rw [hlast]
  · intro error
    rw [ColumnDraft.build_eq_error_iff, ColumnDraft.ofLast_name]
  · intro hname
    exact ⟨_, (ColumnDraft.build_eq_ok_iff _ _).mpr ⟨hname, rfl⟩⟩
  · intro column hbuild
    obtain ⟨-, rfl⟩ := (ColumnDraft.build_eq_ok_iff _ _).mp hbuild
    exact (ColumnDraft.isClean_ofLast name baseType _).isRecordOf

theorem build_setAll_set_twice :
    ∃ column, column.IsRecordOf "VARCHAR" ∧
      ((ColumnDraft.start "title" "VARCHAR").setAll
        [.comment "first", .length "5 0", .nullable false, .comment "the book's"]).build =
          .ok column ∧
      ((ColumnDraft.start "title" "VARCHAR").setAll
        [.nullable false, .comment "the book's", .length "5 0"]).build = .ok column := by
  obtain ⟨hsame, -, hbuilt, hrecord⟩ := build_setAll "title" "VARCHAR"
    [.comment "first", .length "5 0", .nullable false, .comment "the book's"]
    [.nullable false, .comment "the book's", .length "5 0"]
  obtain ⟨column, hcolumn⟩ := hbuilt (by decide +kernel)
  exact ⟨column, hrecord column hcolumn, hcolumn, (hsame rfl).symm.trans hcolumn⟩

end SchemaScaffold
