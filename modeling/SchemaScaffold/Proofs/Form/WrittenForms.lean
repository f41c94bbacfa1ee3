import SchemaScaffold.Proofs.Form.Holes
import SchemaScaffold.Proofs.Form.ImportLines

/-!
# Forms that are written out

The form of a template can be written out in full, line by line, and then says what the template prints
without a reading of its parts. Values, terms and forms are nested in lists of themselves, so the form
that is written out is compared with that of the template piece by piece.
-/

namespace SchemaScaffold

/-! ### Texts of lines -/

def unlines (lines : List String) : String := String.join (lines.map (· ++ "\n"))

def onNewLines (lines : List String) : List Char := lines.flatMap fun line => '\n' :: line.toList

@[simp]
theorem onNewLines_nil : onNewLines [] = [] := rfl

@[simp]
theorem onNewLines_cons (line : String) (rest : List String) :
    onNewLines (line :: rest) = '\n' :: (line.toList ++ onNewLines rest) := by simp [onNewLines]

@[simp]
theorem onNewLines_append (lines others : List String) :
    onNewLines (lines ++ others) = onNewLines lines ++ onNewLines others := List.flatMap_append

@[simp]
theorem onNewLines_ite (condition : Prop) [Decidable condition] (lines : List String) :
    onNewLines (if condition then lines else []) = if condition then onNewLines lines else [] := by
  rw [apply_ite onNewLines, onNewLines_nil]

theorem onNewLines_map {α : Type} (line : α → String) (items : List α) :
    onNewLines (items.map line) = items.flatMap fun item => '\n' :: (line item).toList :=
  List.flatMap_map ..

/-- The ends of lines that stand in front of lines stand behind them, but for the first. -/
theorem onNewLines_newline (lines : List String) (rest : List Char) :
    onNewLines lines ++ '\n' :: rest = '\n' :: ((unlines lines).toList ++ rest) := by
  have hnewline : "\n".toList = ['\n'] := by decide
  rw [unlines, String.toList_join, List.flatMap_map]
  induction lines with
  | nil => rfl
  | cons line others ih =>
      simp only [onNewLines_cons, List.cons_append, List.append_assoc, ih, List.flatMap_cons,
        String.toList_append, hnewline, List.nil_append]

theorem unlines_cons (line : String) (lines : List String) :
    (unlines (line :: lines)).toList = line.toList ++ onNewLines lines ++ ['\n'] := by
  have hnewline : "\n".toList = ['\n'] := by decide
  rw [List.append_assoc, onNewLines_newline, List.append_nil]
  simp [unlines, hnewline]

/-! ### The same form -/

namespace Value

mutual

theorem eq_of_same : ∀ {v w : Value}, same v w = true → v = w
  | .list items, w, h => by
      cases w with
      | list others => rw [eq_of_sameItems h]
      | _ => cases h
  | .record fields, w, h => by
      cases w with
      | record others => rw [eq_of_sameFields h]
      | _ => cases h
  | .null, w, h | .bool _, w, h | .number _, w, h | .text _, w, h => by
      cases w <;> simp_all [same]

theorem eq_of_sameItems : ∀ {items others : List Value}, sameItems items others = true → items = others
  | [], [], _ => rfl
  | _ :: _, _ :: _, h => by
      rw [sameItems, Bool.and_eq_true] at h
      rw [eq_of_same h.1, eq_of_sameItems h.2]
  | [], _ :: _, h | _ :: _, [], h => by cases h

theorem eq_of_sameFields : ∀ {fields others : List (String × Value)},
    sameFields fields others = true → fields = others
  | [], [], _ => rfl
  | (_, _) :: _, (_, _) :: _, h => by
      rw [sameFields, Bool.and_eq_true, Bool.and_eq_true, beq_iff_eq] at h
      rw [h.1.1, eq_of_same h.1.2, eq_of_sameFields h.2]
  | [], _ :: _, h | _ :: _, [], h => by cases h

end

end Value

namespace Form

namespace Term

def same : Term → Term → Bool
  | constant v, constant w => v == w
  | data datum, data other => datum == other
  | upper text, upper other => text.same other
  | lower text, lower other => text.same other
  | replace text pattern replacement, replace text' pattern' replacement' =>
    text.same text' && pattern.same pattern' && replacement.same replacement'
  | slice text start stop, slice text' start' stop' =>
    text.same text' && start == start' && stop == stop'
  | equal left right, equal left' right' => left.same left' && right.same right'
  | negation condition, negation other => condition.same other
  | choice condition yes no, choice condition' yes' no' =>
    condition.same condition' && yes.same yes' && no.same no'
  | joined left right, joined left' right' => left.same left' && right.same right'
  | _, _ => false

theorem eq_of_same : ∀ {term other : Term}, term.same other → term = other
  | .constant _, other, h => by
      cases other with
      | constant => rw [Value.eq_of_same h]
      | _ => cases h
  | .data _, other, h => by
      cases other with
      | data => rw [beq_iff_eq.mp h]
      | _ => cases h
  | .upper _, other, h => by
      cases other with
      | upper =>
          rw [same] at h
          rw [eq_of_same h]
      | _ => cases h
  | .lower _, other, h => by
      cases other with
      | lower =>
          rw [same] at h
          rw [eq_of_same h]
      | _ => cases h
  | .replace .., other, h => by
      cases other with
      | replace =>
          rw [same, Bool.and_eq_true, Bool.and_eq_true] at h
          rw [eq_of_same h.1.1, eq_of_same h.1.2, eq_of_same h.2]
      | _ => cases h
  | .slice .., other, h => by
      cases other with
      | slice =>
          rw [same, Bool.and_eq_true, Bool.and_eq_true, beq_iff_eq, beq_iff_eq] at h
          rw [eq_of_same h.1.1, h.1.2, h.2]
      | _ => cases h
  | .equal .., other, h => by
      cases other with
      | equal =>
          rw [same, Bool.and_eq_true] at h
          rw [eq_of_same h.1, eq_of_same h.2]
      | _ => cases h
  | .negation _, other, h => by
      cases other with
      | negation =>
          rw [same] at h
          rw [eq_of_same h]
      | _ => cases h
  | .choice .., other, h => by
      cases other with
      | choice =>
          rw [same, Bool.and_eq_true, Bool.and_eq_true] at h
          rw [eq_of_same h.1.1, eq_of_same h.1.2, eq_of_same h.2]
      | _ => cases h
  | .joined .., other, h => by
      cases other with
      | joined =>
          rw [same, Bool.and_eq_true] at h
          rw [eq_of_same h.1, eq_of_same h.2]
      | _ => cases h

end Term

mutual

def Piece.same : Piece → Piece → Bool
  | .plain chars, .plain others => chars == others
  | .print term, .print other => term.same other
  | .branch condition yes no, .branch condition' yes' no' =>
    condition.same condition' && sameForm yes yes' && sameForm no no'
  | .forColumns keep body, .forColumns keep' body' => keep.same keep' && sameForm body body'
  | .forImports body, .forImports body' => sameForm body body'
  | _, _ => false

/-- Whether two forms are the same. -/
def sameForm : List Piece → List Piece → Bool
  | [], [] => true
  | piece :: rest, other :: others => piece.same other && sameForm rest others
  | _, _ => false

end

mutual

theorem Piece.eq_of_same : ∀ {piece other : Piece}, piece.same other → piece = other
  | .plain _, other, h => by
      cases other with
      | plain => rw [beq_iff_eq.mp h]
      | _ => cases h
  | .print _, other, h => by
      cases other with
      | print => rw [Term.eq_of_same h]
      | _ => cases h
  | .branch .., other, h => by
      cases other with
      | branch =>
          rw [Piece.same, Bool.and_eq_true, Bool.and_eq_true] at h
          rw [Term.eq_of_same h.1.1, eq_of_sameForm h.1.2, eq_of_sameForm h.2]
      | _ => cases h
  | .forColumns .., other, h => by
      cases other with
      | forColumns =>
          rw [Piece.same, Bool.and_eq_true] at h
          rw [Term.eq_of_same h.1, eq_of_sameForm h.2]
      | _ => cases h
  | .forImports _, other, h => by
      cases other with
      | forImports => rw [eq_of_sameForm h]
      | _ => cases h

theorem eq_of_sameForm : ∀ {form other : List Piece}, sameForm form other → form = other
  | [], [], _ => rfl
  | _ :: _, _ :: _, h => by
      rw [sameForm, Bool.and_eq_true] at h
      rw [Piece.eq_of_same h.1, eq_of_sameForm h.2]
  | [], _ :: _, h | _ :: _, [], h => by cases h

end

/-- The template that the standard selection takes for a role prints the text of its form. -/
theorem renders_of_sameForm {project : Project} {role : Role} {template : TemplateId × List String}
    {form : List Piece} (htemplate : shippedFor project.stack role = some template)
    (hform : HasForm .ofTable template.2 fun found => sameForm found form) (table : Table) :
    Renders project table role (textOf form { project, table }) := by
  obtain ⟨found, hfound, hsame⟩ := hform
  rw [eq_of_sameForm hsame] at hfound
  exact renders_textOf htemplate hfound table

/-! ### Pieces that are written out -/

def plainText (text : String) : Piece := .plain text.toList

def plainLines (first : String) (rest : List String) : Piece :=
  .plain (first.toList ++ onNewLines rest)

def printDatum (datum : Datum) : Piece := .print (.data datum)

def always : Term := .constant (.bool true)

section

variable (focus : Focus)

@[simp]
theorem chars_plainText (text : String) : (plainText text).chars focus = text.toList := rfl

@[simp]
theorem chars_plainLines (first : String) (rest : List String) :
    (plainLines first rest).chars focus = first.toList ++ onNewLines rest := rfl

@[simp]
theorem chars_print (term : Term) : (Piece.print term).chars focus = (term.text focus).toList := rfl

@[simp]
theorem chars_printDatum (datum : Datum) :
    (printDatum datum).chars focus = (Template.printedText (datum.value focus)).toList := rfl

@[simp]
theorem chars_branch (condition : Term) (yes no : List Piece) :
    (Piece.branch condition yes no).chars focus =
      if condition.holds focus then charsOf yes focus else charsOf no focus := rfl

theorem text_choice_text {datum : Datum} {s : String} (hvalue : datum.value focus = .text s)
    (other : Term) : (Term.choice (.data datum) (.data datum) other).text focus =
      if s = "" then other.text focus else s := by
  rw [Term.text_choice, Term.holds, Term.text, Term.value, hvalue]
  by_cases hempty : s = ""
  · subst hempty
    rfl
  · have htruth : Template.truth (.text s) = true := by simpa [Template.truth] using hempty
    rw [if_pos htruth, if_neg hempty]
    rfl

theorem keptColumns_always : focus.keptColumns always = focus.table.columns :=
  List.filter_eq_self.mpr fun _ _ => rfl

theorem chars_forColumns {body : List Piece} (text : Column → List Char)
    (hbody : ∀ place : Focus, place.project = focus.project → charsOf body place = text place.column)
    (keep : Term) :
    (Piece.forColumns keep body).chars focus = (focus.keptColumns keep).flatMap text := by
  rw [Piece.chars, Focus.atColumns]
  exact flatMap_places _ _ (fun column index => hbody { focus with column, index, count := _ } rfl) _

end

end Form

end SchemaScaffold
