import Mathlib.Data.List.Infix
import SchemaScaffold.Proofs.Form.Basic

/-!
# Types in a form

A text uses a type where its form prints the type, or where a plain text spells the name of a type
that must be imported. Which types these are is read off a form before the data are known, so a
check of the form bounds the types of all its texts.
-/

namespace SchemaScaffold.Form

def Datum.type? (table : Table) (column : Column) : Datum → Option JavaType
  | keyType => some table.primaryKeyType
  | mappedType => some column.javaType
  | _ => none

namespace Term

def types (focus : Focus) : Term → List JavaType
  | data datum => (datum.type? focus.table focus.column).toList
  | choice condition yes no => if condition.holds focus then yes.types focus else no.types focus
  | joined left right => left.types focus ++ right.types focus
  | _ => []

def typeData : Term → List Datum
  | data .keyType => [.keyType]
  | data .mappedType => [.mappedType]
  | choice _ yes no => yes.typeData ++ no.typeData
  | joined left right => left.typeData ++ right.typeData
  | _ => []

theorem exists_typeData_of_mem_types {term : Term} {focus : Focus} {type : JavaType}
    (h : type ∈ term.types focus) :
    ∃ datum ∈ term.typeData, datum.type? focus.table focus.column = some type := by
  induction term with
  | data datum =>
      rw [types, Option.mem_toList] at h
      cases datum with
      | keyType | mappedType => exact ⟨_, List.mem_singleton_self _, h⟩
      | _ => cases h
  | choice condition yes no _ ihYes ihNo =>
      rw [types] at h
      by_cases hholds : condition.holds focus
      · rw [if_pos hholds] at h
        obtain ⟨datum, hdatum, htype⟩ := ihYes h
        exact ⟨datum, List.mem_append_left _ hdatum, htype⟩
      · rw [if_neg hholds] at h
        obtain ⟨datum, hdatum, htype⟩ := ihNo h
        exact ⟨datum, List.mem_append_right _ hdatum, htype⟩
  | joined left right ihLeft ihRight =>
      rw [types, List.mem_append] at h
      rcases h with h | h
      · obtain ⟨datum, hdatum, htype⟩ := ihLeft h
        exact ⟨datum, List.mem_append_left _ hdatum, htype⟩
      · obtain ⟨datum, hdatum, htype⟩ := ihRight h
        exact ⟨datum, List.mem_append_right _ hdatum, htype⟩
  | _ => cases h

end Term

/-- The types that a plain text names, of those that must be imported. -/
def spelledTypes (chars : List Char) : List JavaType :=
  JavaType.all.filter fun type => type.importPath.isSome && type.source.toList <:+: chars

mutual

def Piece.types : Piece → Focus → List JavaType
  | .plain chars, _ => spelledTypes chars
  | .print term, focus => term.types focus
  | .branch condition yes no, focus =>
    if condition.holds focus then typesOf yes focus else typesOf no focus
  | .forColumns keep body, focus => (focus.atColumns keep).flatMap (typesOf body)
  | .forImports body, focus => focus.atImports.flatMap (typesOf body)

def typesOf : List Piece → Focus → List JavaType
  | [], _ => []
  | piece :: rest, focus => piece.types focus ++ typesOf rest focus

end

def importedSources : List (List Char) :=
  (JavaType.all.filter (·.importPath.isSome)).map (·.source.toList)

/-- Whether a text names no type that must be imported. The names are looked for only where one of
their first letters stands, which spares an evaluation most of the comparisons. -/
def namesNoType : List Char → Bool
  | [] => true
  | c :: rest =>
    !(['B', 'L'].contains c && importedSources.any (·.isPrefixOf (c :: rest))) && namesNoType rest

theorem not_infix_of_namesNoType {source : List Char} (hsource : source ∈ importedSources)
    {chars : List Char} (h : namesNoType chars) : ¬source <:+: chars := by
  have hinitial : ∀ other ∈ importedSources, other.head?.any fun c => ['B', 'L'].contains c := by
    decide
  obtain ⟨initial, hhead, hmem⟩ := (Option.any_eq_true _ _).mp (hinitial source hsource)
  obtain ⟨tail, rfl⟩ := List.head?_eq_some_iff.mp hhead
  induction chars with
  | nil => simp
  | cons c rest ih =>
      rw [namesNoType, Bool.and_eq_true, Bool.not_eq_true', Bool.and_eq_false_iff] at h
      rw [List.infix_cons_iff]
      rintro (hhere | hlater)
      · obtain rfl := (List.cons_prefix_cons.mp hhere).1
        have hnone := List.any_eq_false.mp (h.1.resolve_left (by rw [hmem]; decide)) _ hsource
        exact hnone (List.isPrefixOf_iff_prefix.mpr hhere)
      · exact ih h.2 hlater

theorem spelledTypes_eq_nil {chars : List Char} (h : namesNoType chars) : spelledTypes chars = [] := by
  rw [spelledTypes, List.filter_eq_nil_iff]
  intro type htype hspelled
  rw [Bool.and_eq_true, decide_eq_true_eq] at hspelled
  have hsource : type.source.toList ∈ importedSources :=
    List.mem_map_of_mem (List.mem_filter.mpr ⟨htype, hspelled.1⟩)
  exact not_infix_of_namesNoType hsource h hspelled.2

mutual

/-- Whether a piece uses no types but those of the data given, some outside and some inside of the
repetitions for the columns. -/
def Piece.typesWithin (outside inside : List Datum) : Piece → Bool
  | .plain chars => namesNoType chars
  | .print term => term.typeData.all (outside.contains ·)
  | .branch _ yes no => allTypesWithin outside inside yes && allTypesWithin outside inside no
  | .forColumns _ body => allTypesWithin inside inside body
  | .forImports body => allTypesWithin outside inside body

def allTypesWithin (outside inside : List Datum) : List Piece → Bool
  | [] => true
  | piece :: rest => piece.typesWithin outside inside && allTypesWithin outside inside rest

end

def Comes (outside inside : List Datum) (table : Table) (column : Column) (type : JavaType) :
    Prop :=
  (∃ datum ∈ outside, datum.type? table column = some type) ∨
    ∃ datum ∈ inside, ∃ other ∈ table.columns, datum.type? table other = some type

/-- What comes inside of a repetition for the columns comes from one of them. -/
theorem Comes.of_column {inside : List Datum} {table : Table} {column : Column} {type : JavaType}
    (h : Comes inside inside table column type) (hcolumn : column ∈ table.columns)
    (outside : List Datum) (other : Column) : Comes outside inside table other type := by
  rcases h with ⟨datum, hdatum, htype⟩ | hinside
  · exact .inr ⟨datum, hdatum, column, hcolumn, htype⟩
  · exact .inr hinside

mutual

theorem comes_of_mem_types {outside inside : List Datum} : ∀ {piece : Piece} {focus : Focus}
    {type : JavaType}, piece.typesWithin outside inside → type ∈ piece.types focus →
    Comes outside inside focus.table focus.column type
  | .plain chars, focus, type, hwithin, h => by
      rw [Piece.types, spelledTypes_eq_nil hwithin] at h
      cases h
  | .print term, focus, type, hwithin, h => by
      obtain ⟨datum, hdatum, htype⟩ := Term.exists_typeData_of_mem_types h
      rw [Piece.typesWithin, List.all_eq_true] at hwithin
      exact .inl ⟨datum, List.contains_iff_mem.mp (hwithin datum hdatum), htype⟩
  | .branch condition yes no, focus, type, hwithin, h => by
      rw [Piece.typesWithin, Bool.and_eq_true] at hwithin
      rw [Piece.types] at h
      by_cases hholds : condition.holds focus
      · rw [if_pos hholds] at h
        exact comes_of_mem_typesOf hwithin.1 h
      · rw [if_neg hholds] at h
        exact comes_of_mem_typesOf hwithin.2 h
  | .forColumns keep body, focus, type, hwithin, h => by
      obtain ⟨place, hplace, htype⟩ := List.mem_flatMap.mp h
      obtain ⟨column, hcolumn, index, rfl⟩ := mem_places hplace
      have hmem : column ∈ focus.table.columns := (List.mem_filter.mp hcolumn).1
      exact Comes.of_column (comes_of_mem_typesOf hwithin htype) hmem outside focus.column
  | .forImports body, focus, type, hwithin, h => by
      obtain ⟨place, hplace, htype⟩ := List.mem_flatMap.mp h
      obtain ⟨imported, -, index, rfl⟩ := mem_places hplace
      have hcomes := comes_of_mem_typesOf hwithin htype
      exact hcomes

theorem comes_of_mem_typesOf {outside inside : List Datum} : ∀ {form : List Piece} {focus : Focus}
    {type : JavaType}, allTypesWithin outside inside form → type ∈ typesOf form focus →
    Comes outside inside focus.table focus.column type
  | [], focus, type, _, h => by cases h
  | piece :: rest, focus, type, hwithin, h => by
      rw [allTypesWithin, Bool.and_eq_true] at hwithin
      rw [typesOf, List.mem_append] at h
      rcases h with h | h
      · exact comes_of_mem_types hwithin.1 h
      · exact comes_of_mem_typesOf hwithin.2 h

end

/-- Whether a form prints the type of the key, whatever the data are. -/
def printsKeyType (form : List Piece) : Bool :=
  form.any fun
    | .print (.data .keyType) => true
    | _ => false

theorem primaryKeyType_mem_typesOf {form : List Piece} (h : printsKeyType form) (focus : Focus) :
    focus.table.primaryKeyType ∈ typesOf form focus := by
  induction form with
  | nil => cases h
  | cons piece rest ih =>
      rw [printsKeyType, List.any_cons, Bool.or_eq_true] at h
      rw [typesOf, List.mem_append]
      rcases h with hpiece | hrest
      · split at hpiece
        · exact .inl (List.mem_singleton_self _)
        · cases hpiece
      · exact .inr (ih hrest)

end SchemaScaffold.Form
