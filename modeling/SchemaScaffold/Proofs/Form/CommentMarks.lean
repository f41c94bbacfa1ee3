import SchemaScaffold.Proofs.Form.Comments

namespace SchemaScaffold.Form

open Template (truth printedText)

/-- Whether a term prints the comment of the table unless that is empty. -/
def Term.printsTableComment : Term → Bool
  | choice (data .tableComment) (data .tableComment) _ => true
  | _ => false

theorem Term.text_eq_comment {term : Term} (h : term.printsTableComment) {focus : Focus}
    (hcomment : focus.table.comment ≠ "") : term.text focus = focus.table.comment := by
  unfold printsTableComment at h
  split at h
  · simp [text, value, Datum.value, truth, printedText, hcomment]
  · cases h

mutual

/-- The characters of a piece, with a mark in the place of the comment of the table. There are none
when the comment is used otherwise or when the table has columns or imports. -/
def Piece.marked (focus : Focus) : Piece → Option (List (Option Char))
  | .plain chars => some (chars.map some)
  | .print term =>
    if term.isBlind then some ((term.text focus).toList.map some)
    else if term.printsTableComment then some [none] else none
  | .branch condition yes no =>
    if condition.isSteady then
      if condition.holds focus then markedOf focus yes else markedOf focus no
    else none
  | .forColumns .. => if focus.table.columns.isEmpty then some [] else none
  | .forImports _ => if focus.imports.isEmpty then some [] else none

def markedOf (focus : Focus) : List Piece → Option (List (Option Char))
  | [] => some []
  | piece :: rest => do return (← piece.marked focus) ++ (← markedOf focus rest)

end

def unmarked (comment : List Char) (marks : List (Option Char)) : List Char :=
  marks.flatMap fun mark => mark.elim comment ([·])

theorem unmarked_map_some (comment chars : List Char) :
    unmarked comment (chars.map some) = chars := by
  induction chars with
  | nil => rfl
  | cons c rest ih => simpa [unmarked] using ih

theorem unmarked_none (comment : List Char) (marks : List (Option Char)) :
    unmarked comment (none :: marks) = comment ++ unmarked comment marks :=
  List.flatMap_cons

theorem unmarked_append (comment : List Char) (marks others : List (Option Char)) :
    unmarked comment (marks ++ others) = unmarked comment marks ++ unmarked comment others :=
  List.flatMap_append

section

variable {focus other : Focus}

mutual

theorem chars_of_marked (hmatches : focus.Matches EmptyTogether other)
    (hcomment : focus.table.comment ≠ "") : ∀ {piece : Piece} {marks : List (Option Char)},
    piece.marked focus = some marks →
    piece.chars other = unmarked other.table.comment.toList marks
  | .plain chars, marks, h => by
      obtain rfl := Option.some.inj h
      rw [Piece.chars, unmarked_map_some]
  | .print term, marks, h => by
      rw [Piece.marked] at h
      split at h
      case isTrue hblind =>
        obtain rfl := Option.some.inj h
        rw [Piece.chars, unmarked_map_some, Term.text, Term.value_eq hmatches hblind, Term.text]
      case isFalse =>
        split at h
        case isTrue hprints =>
          obtain rfl := Option.some.inj h
          have hother := mt hmatches.table.comment.mpr hcomment
          simp [Piece.chars, unmarked, Term.text_eq_comment hprints hother]
        case isFalse => cases h
  | .branch condition yes no, marks, h => by
      rw [Piece.marked] at h
      split at h
      case isFalse => cases h
      case isTrue hsteady =>
      -- A condition that looks at a comment holds for both comments or for neither.
      rw [Piece.chars, Term.holds_eq (fun _ _ => id) hmatches hsteady]
      split at h <;> rename_i hholds
      · rw [if_pos hholds]
        exact charsOf_of_markedOf hmatches hcomment h
      · rw [if_neg hholds]
        exact charsOf_of_markedOf hmatches hcomment h
  | .forColumns keep body, marks, h => by
      rw [Piece.marked] at h
      split at h
      case isFalse => cases h
      case isTrue hempty =>
      obtain rfl := Option.some.inj h
      have hcolumns := hmatches.table.columns
      rw [List.isEmpty_iff.mp hempty, List.forall₂_nil_left_iff] at hcolumns
      simp [Piece.chars, Focus.atColumns, Focus.keptColumns, places, unmarked, hcolumns]
  | .forImports body, marks, h => by
      rw [Piece.marked] at h
      split at h
      case isFalse => cases h
      case isTrue hempty =>
      obtain rfl := Option.some.inj h
      have himports := hmatches.imports
      rw [List.isEmpty_iff.mp hempty] at himports
      simp [Piece.chars, Focus.atImports, places, unmarked, himports]

theorem charsOf_of_markedOf (hmatches : focus.Matches EmptyTogether other)
    (hcomment : focus.table.comment ≠ "") : ∀ {form : List Piece} {marks : List (Option Char)},
    markedOf focus form = some marks →
    charsOf form other = unmarked other.table.comment.toList marks
  | [], marks, h => by
      obtain rfl := Option.some.inj h
      rfl
  | piece :: rest, marks, h => by
      simp only [markedOf, Option.bind_eq_bind, Option.bind_eq_some_iff, Option.pure_def,
        Option.some.injEq] at h
      obtain ⟨own, hown, others, hothers, rfl⟩ := h
      rw [charsOf_cons, chars_of_marked hmatches hcomment hown,
        charsOf_of_markedOf hmatches hcomment hothers, unmarked_append]

end

end

end SchemaScaffold.Form
