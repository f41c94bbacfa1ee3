import SchemaScaffold.Proofs.Form.Basic
import SchemaScaffold.Proofs.GappedTexts

namespace SchemaScaffold.Form

open Template (truth printedText)

/-- What a form prints in a gap. -/
inductive Hole where
  | packageName
  | className
  | instanceName
  | keyType
  | tableName
  | columnName
  | propertyName
  | keyColumn
  | keyProperty
  | comment
  deriving DecidableEq

namespace Hole

def ofDatum? : Datum → Option Hole
  | .packageName => some packageName
  | .className => some className
  | .instanceName => some instanceName
  | .keyType => some keyType
  | .tableName => some tableName
  | .columnName => some columnName
  | .propertyName => some propertyName
  | _ => none

def ofChoice? : Datum → Term → Option Hole
  | .keyColumnName, .constant (.text other) => if other = "id" then some keyColumn else none
  | .keyProperty, .constant (.text other) => if other = "id" then some keyProperty else none
  | .tableComment, .data .className => some comment
  | _, _ => none

def term : Hole → Term
  | packageName => .data .packageName
  | className => .data .className
  | instanceName => .data .instanceName
  | keyType => .data .keyType
  | tableName => .data .tableName
  | columnName => .data .columnName
  | propertyName => .data .propertyName
  | keyColumn => .choice (.data .keyColumnName) (.data .keyColumnName) (.constant (.text "id"))
  | keyProperty => .choice (.data .keyProperty) (.data .keyProperty) (.constant (.text "id"))
  | comment => .choice (.data .tableComment) (.data .tableComment) (.data .className)

def fill (focus : Focus) (hole : Hole) : List Char := (hole.term.text focus).toList

theorem term_of_ofDatum? {datum : Datum} {hole : Hole} (h : ofDatum? datum = some hole) :
    hole.term = .data datum := by
  cases datum <;> cases h <;> rfl

theorem term_of_ofChoice? {datum : Datum} {other : Term} {hole : Hole}
    (h : ofChoice? datum other = some hole) :
    hole.term = .choice (.data datum) (.data datum) other := by
  unfold ofChoice? at h
  split at h
  case h_1 | h_2 =>
    split at h
    case isFalse => cases h
    case isTrue hid =>
      subst hid
      cases h
      rfl
  case h_3 =>
    cases h
    rfl
  case h_4 => cases h

end Hole

/-- Choices that are settled. -/
abbrev Settings := List (Datum × Bool)

def Settings.all : List Datum → List Settings
  | [] => [[]]
  | datum :: rest => (all rest).flatMap fun settings =>
      [(datum, true) :: settings, (datum, false) :: settings]

def Settings.at (focus : Focus) (data : List Datum) : Settings :=
  data.map fun datum => (datum, truth (datum.value focus))

theorem Settings.at_mem_all (focus : Focus) (data : List Datum) : Settings.at focus data ∈ all data := by
  induction data with
  | nil => exact List.mem_singleton_self _
  | cons datum rest ih =>
      refine List.mem_flatMap.mpr ⟨_, ih, ?_⟩
      cases h : truth (datum.value focus) <;> simp [Settings.at, h]

theorem Settings.lookup_at {focus : Focus} {data : List Datum} {datum : Datum} {holds : Bool}
    (h : (Settings.at focus data).lookup datum = some holds) : truth (datum.value focus) = holds := by
  induction data with
  | nil => cases h
  | cons other rest ih =>
      rw [Settings.at, List.map_cons, List.lookup_cons] at h
      cases heq : datum == other with
      | true =>
          rw [heq] at h
          obtain rfl := beq_iff_eq.mp heq
          exact Option.some.inj h
      | false =>
          rw [heq] at h
          exact ih h

namespace Term

def settled? (settings : Settings) : Term → Option Bool
  | data datum => settings.lookup datum
  | negation condition => (condition.settled? settings).map (!·)
  | _ => none

def letters? (settings : Settings) : Term → Option (List (Letter Hole))
  | constant (.text s) => some (Letter.ofChars s.toList)
  | data datum => (Hole.ofDatum? datum).map fun hole => [.gap hole]
  | choice (data datum) yes no =>
    match settings.lookup datum, yes with
    | some true, _ => yes.letters? settings
    | some false, _ => no.letters? settings
    | none, data other =>
      if datum = other then (Hole.ofChoice? datum no).map fun hole => [.gap hole] else none
    | none, _ => none
  | _ => none

end Term

mutual

def Piece.letters? (settings : Settings) : Piece → Option (List (Letter Hole))
  | .plain chars => some (Letter.ofChars chars)
  | .print term => term.letters? settings
  | .branch condition yes no => do
    if ← condition.settled? settings then lettersOf? settings yes else lettersOf? settings no
  | .forColumns .. | .forImports .. => none

def lettersOf? (settings : Settings) : List Piece → Option (List (Letter Hole))
  | [] => some []
  | piece :: rest => do return (← piece.letters? settings) ++ (← lettersOf? settings rest)

end

section

open Letter

variable {focus : Focus} {data : List Datum}

theorem Term.holds_of_settled? {term : Term} {holds : Bool}
    (h : term.settled? (Settings.at focus data) = some holds) : term.holds focus = holds := by
  induction term generalizing holds with
  | data datum => exact Settings.lookup_at h
  | negation condition ih =>
      obtain ⟨inner, hinner, rfl⟩ := Option.map_eq_some_iff.mp h
      have hholds := ih hinner
      rw [Term.holds] at hholds
      show truth (.bool !(truth (condition.value focus))) = _
      rw [hholds]
      rfl
  | _ => cases h

theorem Term.text_choice (condition yes no : Term) (focus : Focus) :
    (choice condition yes no).text focus =
      if condition.holds focus then yes.text focus else no.text focus := by
  rw [text, value, apply_ite printedText]
  rfl

theorem Term.text_of_letters? {term : Term} {letters : List (Letter Hole)}
    (h : term.letters? (Settings.at focus data) = some letters) :
    (term.text focus).toList = filled (Hole.fill focus) letters := by
  induction term generalizing letters with
  | constant v =>
      cases v with
      | text s =>
          obtain rfl := Option.some.inj h
          rw [filled_ofChars]
          rfl
      | _ => cases h
  | data datum =>
      obtain ⟨hole, hhole, rfl⟩ := Option.map_eq_some_iff.mp h
      simp [Letter.chars, Hole.fill, Hole.term_of_ofDatum? hhole]
  | choice condition yes no _ ihYes ihNo =>
      cases condition with
      | data datum =>
          unfold letters? at h
          split at h
          case h_1 hsettled =>
            have hholds : (Term.data datum).holds focus = true := Settings.lookup_at hsettled
            rw [text_choice, hholds]
            exact ihYes h
          case h_2 hsettled =>
            have hholds : (Term.data datum).holds focus = false := Settings.lookup_at hsettled
            rw [text_choice, hholds]
            exact ihNo h
          case h_3 =>
            split at h
            case isFalse => cases h
            case isTrue hdatum =>
              subst hdatum
              obtain ⟨hole, hhole, rfl⟩ := Option.map_eq_some_iff.mp h
              simp [Letter.chars, Hole.fill, Hole.term_of_ofChoice? hhole]
          case h_4 => cases h
      | _ => cases h
  | _ => cases h

mutual

theorem Piece.chars_of_letters? : ∀ {piece : Piece} {letters : List (Letter Hole)},
    piece.letters? (Settings.at focus data) = some letters →
      piece.chars focus = filled (Hole.fill focus) letters
  | .plain chars, _, h => by
      obtain rfl := Option.some.inj h
      rw [filled_ofChars]
      rfl
  | .print _, _, h => Term.text_of_letters? h
  | .branch condition yes no, letters, h => by
      obtain ⟨holds, hsettled, h⟩ := Option.bind_eq_some_iff.mp h
      have hholds := Term.holds_of_settled? hsettled
      rw [Piece.chars, hholds]
      cases holds with
      | true => exact charsOf_of_lettersOf? h
      | false => exact charsOf_of_lettersOf? h
  | .forColumns .., _, h | .forImports _, _, h => by cases h

theorem charsOf_of_lettersOf? : ∀ {form : List Piece} {letters : List (Letter Hole)},
    lettersOf? (Settings.at focus data) form = some letters →
      charsOf form focus = filled (Hole.fill focus) letters
  | [], _, h => by
      obtain rfl := Option.some.inj h
      rfl
  | piece :: rest, letters, h => by
      obtain ⟨front, hfront, h⟩ := Option.bind_eq_some_iff.mp h
      obtain ⟨back, hback, h⟩ := Option.bind_eq_some_iff.mp h
      obtain rfl := Option.some.inj h
      rw [charsOf_cons, Piece.chars_of_letters? hfront, charsOf_of_lettersOf? hback, filled_append]

end

end

end SchemaScaffold.Form
