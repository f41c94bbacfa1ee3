import Mathlib.Data.List.Forall2
import SchemaScaffold.Proofs.Form.Basic
import SchemaScaffold.Proofs.Java.Reading

namespace SchemaScaffold

structure Column.Matches (R : String → String → Prop) (c d : Column) : Prop where
  rest : { c with comment := "" } = { d with comment := "" }
  comment : R c.comment d.comment

structure Table.Matches (R : String → String → Prop) (t u : Table) : Prop where
  rest : { t with comment := "", columns := [] } = { u with comment := "", columns := [] }
  comment : R t.comment u.comment
  columns : List.Forall₂ (Column.Matches R) t.columns u.columns

/-- Both texts are empty or neither is. -/
def EmptyTogether (s t : String) : Prop := s = "" ↔ t = ""

instance (s t : String) : Decidable (EmptyTogether s t) := inferInstanceAs (Decidable (_ ↔ _))

section

variable {R : String → String → Prop}

theorem Column.Matches.eq {c d : Column} (h : c.Matches R d) :
    d = { c with comment := d.comment } := by
  have hrest := h.rest
  cases c
  cases d
  simp_all

theorem any_filter_eq {p q : Column → Bool}
    (hp : ∀ c comment, p { c with comment } = p c) (hq : ∀ c comment, q { c with comment } = q c)
    {columns others : List Column} (h : List.Forall₂ (Column.Matches R) columns others) :
    (others.filter p).any q = (columns.filter p).any q := by
  induction h with
  | nil => rfl
  | @cons c d _ _ hcolumn _ ih =>
      rw [List.filter_cons, List.filter_cons, hcolumn.eq, hp]
      split
      · rw [List.any_cons, List.any_cons, ih, hq]
      · exact ih

theorem Table.Matches.imports_eq {t u : Table} (h : t.Matches R u)
    (stack : Stack) : Model.imports stack u = Model.imports stack t := by
  have htable : u.imports = t.imports := (congrArg Table.imports h.rest).symm
  have hnull := any_filter_eq (p := fun column => !column.isPrimaryKey) (q := Column.needsNotNull)
    (fun _ _ => rfl) (fun _ _ => rfl) h.columns
  have hsize := any_filter_eq (p := fun column => !column.isPrimaryKey) (q := Column.needsSize)
    (fun _ _ => rfl) (fun _ _ => rfl) h.columns
  simp only [Model.imports, Model.featureImports, htable, hnull, hsize]

end

namespace Form

open Template (truth printedText)

/-- Comments that are the same or harmless, and both empty or neither. -/
structure Alike (s t : String) : Prop where
  empty : EmptyTogether s t
  harmless : s = t ∨ Java.Harmless s.toList ∧ Java.Harmless t.toList

structure Focus.Matches (R : String → String → Prop) (focus other : Focus) : Prop where
  project : focus.project = other.project
  table : focus.table.Matches R other.table
  column : focus.column.Matches R other.column
  imported : focus.imported = other.imported
  index : focus.index = other.index
  count : focus.count = other.count

section

variable {R : String → String → Prop} {focus other : Focus}

theorem Focus.Matches.eq (h : focus.Matches R other) :
    other = { focus with
      table := { focus.table with comment := other.table.comment, columns := other.table.columns }
      column := { focus.column with comment := other.column.comment } } := by
  obtain ⟨project, table, column, imported, index, count⟩ := focus
  obtain ⟨project', table', column', imported', index', count'⟩ := other
  obtain ⟨hproject, htable, hcolumn, himported, hindex, hcount⟩ := h
  have hrest := htable.rest
  have hrest' := hcolumn.rest
  cases table
  cases table'
  cases column
  cases column'
  simp_all

/-- Whether a piece of data looks at no comment, and at no other column than its own. -/
def Datum.isBlind : Datum → Bool
  | tableComment | columnComment | keyColumnName | keyProperty => false
  | _ => true

theorem Datum.value_eq (h : focus.Matches R other) {datum : Datum}
    (hblind : datum.isBlind) : datum.value other = datum.value focus := by
  rw [h.eq]
  cases datum <;> first | rfl | cases hblind

namespace Term

def isBlind : Term → Bool
  | constant _ => true
  | data datum => datum.isBlind
  | upper text | lower text | slice text _ _ => text.isBlind
  | replace text pattern replacement =>
    text.isBlind && pattern.isBlind && replacement.isBlind
  | equal left right | joined left right => left.isBlind && right.isBlind
  | negation condition => condition.isBlind
  | choice condition yes no => condition.isBlind && yes.isBlind && no.isBlind

theorem value_eq (h : focus.Matches R other) {term : Term}
    (hblind : term.isBlind) : term.value other = term.value focus := by
  induction term with
  | constant => rfl
  | data datum => exact Datum.value_eq h hblind
  | _ => simp_all [isBlind, value]

/-- Whether a term holds at both places or at neither: it looks at no comment, or is one. -/
def isSteady (term : Term) : Bool :=
  match term with
  | data .tableComment | data .columnComment => true
  | _ => term.isBlind

/-- Whether a term prints a comment, or something that looks at none if the comment is empty. -/
def printsComment : Term → Bool
  | data .tableComment | data .columnComment => true
  | choice (data .tableComment) (data .tableComment) other
  | choice (data .columnComment) (data .columnComment) other => other.isBlind
  | _ => false

theorem isEmpty_eq {s t : String} (h : EmptyTogether s t) : t.isEmpty = s.isEmpty := by
  rw [Bool.eq_iff_iff, String.isEmpty_iff, String.isEmpty_iff]
  exact h.symm

theorem holds_eq (hempty : ∀ s t, R s t → EmptyTogether s t) (h : focus.Matches R other)
    {term : Term} (hsteady : term.isSteady) : term.holds other = term.holds focus := by
  unfold isSteady at hsteady
  split at hsteady
  · exact congrArg not (isEmpty_eq (hempty _ _ h.table.comment))
  · exact congrArg not (isEmpty_eq (hempty _ _ h.column.comment))
  · rw [holds, value_eq h hsteady, holds]

/-- What prints a comment prints the same at both places, or two harmless texts. -/
theorem text_eq_or_harmless (h : focus.Matches Alike other) {term : Term}
    (hprints : term.printsComment) : term.text focus = term.text other ∨
      Java.Harmless (term.text focus).toList ∧ Java.Harmless (term.text other).toList := by
  unfold printsComment at hprints
  split at hprints
  case h_1 => exact h.table.comment.harmless
  case h_2 => exact h.column.comment.harmless
  case h_3 third =>
    by_cases hempty : focus.table.comment = ""
    · refine .inl ?_
      have hempty' := h.table.comment.empty.mp hempty
      simp [text, value, Datum.value, truth, hempty, hempty', value_eq h hprints]
    · have hempty' := mt h.table.comment.empty.mpr hempty
      simpa [text, value, Datum.value, truth, hempty, hempty', printedText]
        using h.table.comment.harmless
  case h_4 third =>
    by_cases hempty : focus.column.comment = ""
    · refine .inl ?_
      have hempty' := h.column.comment.empty.mp hempty
      simp [text, value, Datum.value, truth, hempty, hempty', value_eq h hprints]
    · have hempty' := mt h.column.comment.empty.mpr hempty
      simpa [text, value, Datum.value, truth, hempty, hempty', printedText]
        using h.column.comment.harmless
  case h_5 => cases hprints

end Term

/-! ## Repetitions -/

theorem forall₂_places {α β : Type} {S : α → β → Prop} {enter : α → Focus} {enter' : β → Focus}
    {count : Nat} (henter : ∀ a b index, S a b →
      Focus.Matches R { enter a with index, count } { enter' b with index, count })
    {as : List α} {bs : List β} (h : List.Forall₂ S as bs) (index : Nat) :
    List.Forall₂ (Focus.Matches R) (places enter count index as) (places enter' count index bs) := by
  induction h generalizing index with
  | nil => exact .nil
  | cons hab _ ih => exact .cons (henter _ _ index hab) (ih (index + 1))

theorem Focus.Matches.withColumn (h : focus.Matches R other) {c d : Column}
    (hcolumn : c.Matches R d) (index count : Nat) :
    Focus.Matches R { focus with column := c, index, count } { other with column := d, index, count } :=
  { h with
    column := hcolumn
    index := rfl
    count := rfl }

theorem Focus.Matches.keptColumns (h : focus.Matches R other) {keep : Term}
    (hkeep : keep.isBlind) :
    List.Forall₂ (Column.Matches R) (focus.keptColumns keep) (other.keptColumns keep) := by
  refine List.rel_filter ?_ h.table.columns
  intro c d hcolumn
  have hmatches : Focus.Matches R { focus with column := c } { other with column := d } :=
    { h with column := hcolumn }
  simp only [Term.holds, Term.value_eq hmatches hkeep]

theorem Focus.Matches.atColumns (h : focus.Matches R other) {keep : Term}
    (hkeep : keep.isBlind) :
    List.Forall₂ (Focus.Matches R) (focus.atColumns keep) (other.atColumns keep) := by
  have hkept := h.keptColumns hkeep
  rw [Focus.atColumns, Focus.atColumns, ← hkept.length_eq]
  exact forall₂_places (S := Column.Matches R) (fun c d index hcolumn => h.withColumn hcolumn index _) hkept 0

theorem Focus.Matches.imports (h : focus.Matches R other) :
    other.imports = focus.imports := by
  rw [Focus.imports, Focus.imports, ← h.project, h.table.imports_eq]

theorem Focus.Matches.atImports (h : focus.Matches R other) :
    List.Forall₂ (Focus.Matches R) focus.atImports other.atImports := by
  rw [Focus.atImports, Focus.atImports, h.imports]
  refine forall₂_places (S := Eq) ?_ (List.forall₂_refl _) 0
  rintro imported - index rfl
  exact {
    project := h.project
    table := h.table
    column := h.column
    imported := rfl
    index := rfl
    count := rfl }

end

end Form

end SchemaScaffold
