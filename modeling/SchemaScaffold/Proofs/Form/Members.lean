import SchemaScaffold.Proofs.CamelCase
import SchemaScaffold.Proofs.Form.TableTemplates

namespace SchemaScaffold

open Form

def fieldLine (column : Column) : List Char :=
  List.flatten ["\n    private ".toList, column.javaType.source.toList, " ".toList,
    column.propertyName.toList, ";\n".toList]

def accessorName (property : String) : String := String.ofList (Naming.withCapital property.toList)

def accessors (column : Column) : List Char :=
  let type := column.javaType.source.toList
  let property := column.propertyName.toList
  let name := (accessorName column.propertyName).toList
  List.flatten ["\n    public ".toList, type, " get".toList, name,
    "() \x7b\n        return ".toList, property, ";\n    \x7d\n\n    public void set".toList, name,
    "(".toList, type, " ".toList, property, ") \x7b\n        this.".toList, property, " = ".toList,
    property, ";\n    \x7d\n".toList]

def DeclaresMembers (stack : Stack) (columns : List Column) (content : String) : Prop :=
  ∃ front fields, content.toList = front ++ fields.flatten
      ++ (if stack.lombokAccessors then [] else columns.flatMap accessors)
      ++ "\x7d\n".toList ∧
    List.Forall₂ (fun column field => fieldLine column <:+ field) columns fields

namespace Form

inductive MemberPart where
  | plain (chars : List Char)
  | type
  | name
  | capital
  deriving DecidableEq

namespace MemberPart

def ofPiece? : Piece → Option MemberPart
  | .plain chars => some (plain chars)
  | .print (.data .mappedType) => some type
  | .print (.data .propertyName) => some name
  | .print (.joined (.upper (.slice (.data .propertyName) 0 (some 1)))
      (.joined (.slice (.data .propertyName) 1 none) (.constant (.text empty)))) =>
    if empty = "" then some capital else none
  | _ => none

def chars (column : Column) : MemberPart → List Char
  | plain chars => chars
  | type => column.javaType.source.toList
  | name => column.propertyName.toList
  | capital => (accessorName column.propertyName).toList

theorem upper_take_append_drop (chars : List Char) :
    Text.upperList (chars.take 1) ++ chars.drop 1 = Naming.withCapital chars := by
  cases chars with
  | nil => rfl
  | cons c rest => simp [Text.upperList, Naming.withCapital]

theorem chars_of_ofPiece? {piece : Piece} {part : MemberPart} (h : ofPiece? piece = some part)
    (focus : Focus) : piece.chars focus = part.chars focus.column := by
  unfold ofPiece? at h
  split at h
  case h_1 => obtain rfl := Option.some.inj h; rfl
  case h_2 => obtain rfl := Option.some.inj h; rfl
  case h_3 => obtain rfl := Option.some.inj h; rfl
  case h_4 empty =>
    split at h
    case isFalse => cases h
    case isTrue hempty =>
      obtain rfl := Option.some.inj h
      simp [Piece.chars, Term.text, Term.value, Datum.value, Template.printedText, Template.between,
        Text.upper, chars, accessorName, hempty, ← upper_take_append_drop]
  case h_5 => cases h

theorem charsOf_of_ofPieces? {pieces : List Piece} {parts : List MemberPart}
    (h : pieces.mapM ofPiece? = some parts) (focus : Focus) :
    charsOf pieces focus = parts.flatMap (chars focus.column) := by
  induction pieces generalizing parts with
  | nil =>
      obtain rfl : parts = [] := by simpa using h.symm
      rfl
  | cons piece rest ih =>
      rw [List.mapM_cons] at h
      obtain ⟨part, hpart, hparts⟩ := Option.bind_eq_some_iff.mp h
      obtain ⟨others, hothers, hcons⟩ := Option.bind_eq_some_iff.mp hparts
      obtain rfl := Option.some.inj hcons
      rw [charsOf_cons, chars_of_ofPiece? hpart, ih hothers, List.flatMap_cons]

def ofField : List MemberPart :=
  [plain "\n    private ".toList, type, plain " ".toList, name, plain ";\n".toList]

def ofAccessors : List MemberPart :=
  [plain "\n    public ".toList, type, plain " get".toList, capital,
    plain "() \x7b\n        return ".toList, name,
    plain ";\n    \x7d\n\n    public void set".toList, capital, plain "(".toList, type,
    plain " ".toList, name, plain ") \x7b\n        this.".toList, name, plain " = ".toList, name,
    plain ";\n    \x7d\n".toList]

theorem chars_ofField (column : Column) :
    ofField.flatMap (chars column) = fieldLine column := rfl

theorem chars_ofAccessors (column : Column) :
    ofAccessors.flatMap (chars column) = accessors column := rfl

end MemberPart

end Form

theorem shippedFor_entity (stack : Stack) :
    shippedFor stack .entity =
      some ((TableTemplate.entity stack.orm).id, (TableTemplate.entity stack.orm).lines) := by
  cases horm : stack.orm <;> simp only [shippedFor, horm, TableTemplate.entity]

end SchemaScaffold
