import SchemaScaffold.Proofs.Form.ImportLines
import SchemaScaffold.Proofs.Form.PackageLines

namespace SchemaScaffold

def DeclaresType (content name : String) : Prop :=
  ("public class " ++ name ++ " ").toList <:+: content.toList ∨
    ("public interface " ++ name ++ " ").toList <:+: content.toList

namespace Form

open Template (printedText)

inductive Mark where
  | char (c : Char)
  | datum (datum : Datum)
  | optional (feature : Feature) (chars : List Char)
  | recorded
  deriving DecidableEq

def Mark.chars (focus : Focus) : Mark → List Char
  | char c => [c]
  | datum d => (printedText (d.value focus)).toList
  | optional feature chars => if focus.project.stack.has feature then chars else []
  | recorded => focus.imports.flatMap fun path => '\n' :: importLine path

/-- Texts one behind another. They are taken one by one since their characters cost an evaluation
more than in proportion to their length. -/
def Mark.ofTexts (texts : List String) : List Mark :=
  texts.flatMap fun text => text.toList.map .char

def Piece.mark? : Piece → Option Mark
  | .print (.data datum) => some (.datum datum)
  | .branch (.data (.flag feature)) [.plain chars] [] => some (.optional feature chars)
  | .forImports [.plain lead, .print (.data .imported), .plain stop] =>
    if lead == "\nimport ".toList && stop == ";".toList then some .recorded else none
  | _ => none

theorem chars_of_mark? {piece : Piece} {mark : Mark} (h : piece.mark? = some mark)
    (focus : Focus) : piece.chars focus = mark.chars focus := by
  unfold Piece.mark? at h
  split at h
  case h_1 datum =>
    obtain rfl := Option.some.inj h
    rfl
  case h_2 feature chars =>
    obtain rfl := Option.some.inj h
    rw [Piece.chars, Mark.chars]
    cases hfeature : focus.project.stack.has feature <;>
      simp [Term.holds, Term.value, Datum.value, Template.truth, hfeature, Piece.chars]
  case h_3 lead stop =>
    split at h
    case isFalse => cases h
    case isTrue hspelled =>
      rw [Bool.and_eq_true, beq_iff_eq, beq_iff_eq] at hspelled
      obtain ⟨rfl, rfl⟩ := hspelled
      obtain rfl := Option.some.inj h
      rw [Piece.chars, Mark.chars, Focus.atImports]
      apply flatMap_places
      intro path index
      simp [Piece.chars, Term.text, Term.value, Datum.value, printedText, importLine]
  case h_4 => cases h

def behindMark? (mark : Mark) : List Piece → Option (List Piece)
  | [] => none
  | .plain [] :: rest => behindMark? mark rest
  | .plain (c :: chars) :: rest => if mark = .char c then some (.plain chars :: rest) else none
  | piece :: rest => if piece.mark? = some mark then some rest else none

theorem charsOf_of_behindMark? {mark : Mark} {form rest : List Piece}
    (h : behindMark? mark form = some rest) (focus : Focus) :
    charsOf form focus = mark.chars focus ++ charsOf rest focus := by
  induction form with
  | nil => cases h
  | cons piece others ih =>
      unfold behindMark? at h
      split at h
      case h_1 heq => cases heq
      case h_2 more heq =>
        obtain ⟨rfl, rfl⟩ := List.cons.inj heq
        rw [charsOf_cons, Piece.chars, ih h]
        rfl
      case h_3 c chars more heq =>
        obtain ⟨rfl, rfl⟩ := List.cons.inj heq
        split at h
        case isFalse => cases h
        case isTrue hmark =>
          obtain rfl := Option.some.inj h
          rw [hmark]
          rfl
      case h_4 next more _ _ heq =>
        obtain ⟨rfl, rfl⟩ := List.cons.inj heq
        split at h
        case isFalse => cases h
        case isTrue hmark =>
          obtain rfl := Option.some.inj h
          rw [charsOf_cons, chars_of_mark? hmark]

def behind? : List Mark → List Piece → Option (List Piece)
  | [], form => some form
  | mark :: marks, form => (behindMark? mark form).bind (behind? marks)

theorem charsOf_of_behind? {marks : List Mark} {form rest : List Piece}
    (h : behind? marks form = some rest) (focus : Focus) :
    charsOf form focus = marks.flatMap (Mark.chars focus) ++ charsOf rest focus := by
  induction marks generalizing form with
  | nil =>
      obtain rfl := Option.some.inj h
      rfl
  | cons mark marks ih =>
      obtain ⟨middle, hmiddle, hrest⟩ := Option.bind_eq_some_iff.mp h
      rw [charsOf_of_behindMark? hmiddle, ih hrest, List.flatMap_cons, List.append_assoc]

/-- Whether a text cannot be the start of a line of a header. -/
def startsOther : List Char → Bool
  | c :: d :: _ => c != '\n' && d != '\n' && !opensHeaderLine [c, d]
  | _ => false

theorem headerLines_of_startsOther {chars : List Char} (h : startsOther chars)
    (rest : List Char) : headerLines (chars ++ rest) = [] := by
  unfold startsOther at h
  split at h
  case h_2 => cases h
  case h_1 c d others =>
    simp only [Bool.and_eq_true, bne_iff_ne, Bool.not_eq_true'] at h
    obtain ⟨⟨hc, hd⟩, hopens⟩ := h
    have hline : '\n' ∉ [c, d] := by simp [hc.symm, hd.symm]
    exact headerLines_eq_nil hline (List.prefix_refl _) (by simp [hopens]) (others ++ rest)

/-- Whether the text of a form begins with a line that is part of no header. -/
def endsHeader : List Piece → Bool
  | .plain [] :: rest => endsHeader rest
  | .plain chars :: _ => startsOther chars
  | .branch _ (.plain chars :: _) [] :: rest => startsOther chars && endsHeader rest
  | _ => false

theorem headerLines_of_endsHeader {form : List Piece} (h : endsHeader form) (focus : Focus) :
    headerLines (charsOf form focus) = [] := by
  induction form with
  | nil => cases h
  | cons piece rest ih =>
      unfold endsHeader at h
      split at h
      case h_1 more heq =>
        obtain ⟨rfl, rfl⟩ := List.cons.inj heq
        exact ih h
      case h_2 chars more _ heq =>
        obtain ⟨rfl, rfl⟩ := List.cons.inj heq
        exact headerLines_of_startsOther h _
      case h_3 condition chars yes more heq =>
        obtain ⟨rfl, rfl⟩ := List.cons.inj heq
        rw [Bool.and_eq_true] at h
        rw [charsOf_cons, Piece.chars]
        by_cases hholds : condition.holds focus
        · rw [if_pos hholds, charsOf_cons, Piece.chars, List.append_assoc]
          exact headerLines_of_startsOther h.1 _
        · rw [if_neg hholds]
          exact ih h.2
      case h_4 => cases h

theorem headerLines_lines {first : List Char} {lines : List (List Char)}
    (hlines : ∀ line ∈ first :: lines, isHeaderLine line ∧ '\n' ∉ line) (rest : List Char) :
    headerLines (first ++ lines.flatMap (fun line => '\n' :: line) ++ '\n' :: rest) =
      first :: lines ++ headerLines rest := by
  induction lines generalizing first with
  | nil =>
      have hfirst := hlines first List.mem_cons_self
      rw [List.flatMap_nil, List.append_nil, headerLines_line hfirst.2, if_pos hfirst.1]
      rfl
  | cons second others ih =>
      rw [List.forall_mem_cons] at hlines
      have hothers := ih hlines.2
      rw [List.flatMap_cons, List.append_assoc, List.append_assoc, List.cons_append,
        headerLines_line hlines.1.2, if_pos hlines.1.1]
      rw [List.append_assoc] at hothers
      rw [← List.append_assoc, List.append_assoc, hothers]
      rfl

/-! ### Headers that are laid out -/

def qualified (type : String × String) : String := type.1 ++ "." ++ type.2

inductive HeaderItem where
  | gap
  | library (package name : String)
  | optional (feature : Feature) (types : List (String × String))
  | shared (folder name : String)
  /-- A type whose name is made from the class name of the table. -/
  | own (folder front back : String)
  | recorded
  deriving DecidableEq

def Focus.package (focus : Focus) (folder : String) : String :=
  focus.project.packageName ++ "." ++ folder

namespace HeaderItem

def marks : HeaderItem → List Mark
  | gap => Mark.ofTexts ["\n"]
  | library package name => Mark.ofTexts ["\nimport ", package, ".", name, ";"]
  | optional feature types =>
    [.optional feature (types.flatMap fun type =>
      ["\nimport ", type.1, ".", type.2, ";"].flatMap String.toList)]
  | shared folder name =>
    Mark.ofTexts ["\nimport "] ++ .datum .packageName
      :: Mark.ofTexts [".", folder, ".", name, ";"]
  | own folder front back =>
    Mark.ofTexts ["\nimport "] ++ .datum .packageName :: Mark.ofTexts [".", folder, ".", front]
      ++ .datum .className :: Mark.ofTexts [back, ";"]
  | recorded => [.recorded]

def paths (focus : Focus) : HeaderItem → List String
  | gap => []
  | library package name => [qualified (package, name)]
  | optional feature types =>
    if focus.project.stack.has feature then types.map qualified else []
  | shared folder name => [qualified (focus.package folder, name)]
  | own folder front back =>
    [qualified (focus.package folder, front ++ focus.table.className ++ back)]
  | recorded => focus.imports

def lines (focus : Focus) : HeaderItem → List (List Char)
  | gap => [[]]
  | item => (item.paths focus).map importLine

theorem chars_marks (item : HeaderItem) (focus : Focus) :
    item.marks.flatMap (Mark.chars focus) =
      (item.lines focus).flatMap fun line => '\n' :: line := by
  cases item with
  | gap => rfl
  | library package name =>
      simp [marks, lines, paths, Mark.ofTexts, List.flatMap_map, Mark.chars, importLine, qualified]
  | optional feature types =>
      cases hfeature : focus.project.stack.has feature <;>
        simp [marks, lines, paths, Mark.chars, hfeature, List.flatMap_map, importLine, qualified]
  | shared folder name =>
      simp [marks, lines, paths, Mark.ofTexts, List.flatMap_map, Mark.chars, importLine, qualified,
        Focus.package, Datum.value, printedText]
  | own folder front back =>
      simp [marks, lines, paths, Mark.ofTexts, List.flatMap_map, Mark.chars, importLine, qualified,
        Focus.package, Datum.value, printedText]
  | recorded => simp [marks, lines, paths, Mark.chars, List.flatMap_map]

end HeaderItem

/-- A header: the declaration of a package, the items behind it, and the name of the type that the
file declares, around the class name of the table. -/
structure Header where
  folder : String
  items : List HeaderItem
  front : String
  back : String
  deriving DecidableEq

namespace Header

def marks (header : Header) : List Mark :=
  Mark.ofTexts ["package "] ++ .datum .packageName :: Mark.ofTexts [".", header.folder, ";"]
    ++ header.items.flatMap HeaderItem.marks ++ [.char '\n']

def packageLine (header : Header) (focus : Focus) : List Char :=
  ("package " ++ focus.package header.folder ++ ";").toList

def lines (header : Header) (focus : Focus) : List (List Char) :=
  header.items.flatMap (HeaderItem.lines focus)

def paths (header : Header) (focus : Focus) : List String :=
  header.items.flatMap (HeaderItem.paths focus)

def typeName (header : Header) (focus : Focus) : String :=
  header.front ++ focus.table.className ++ header.back

theorem chars_marks (header : Header) (focus : Focus) :
    header.marks.flatMap (Mark.chars focus) =
      header.packageLine focus ++ (header.lines focus).flatMap (fun line => '\n' :: line)
        ++ ['\n'] := by
  have hitems : (header.items.flatMap HeaderItem.marks).flatMap (Mark.chars focus) =
      (header.lines focus).flatMap fun line => '\n' :: line := by
    simp only [List.flatMap_assoc, HeaderItem.chars_marks, lines]
  simp [marks, packageLine, hitems, Mark.ofTexts, List.flatMap_map, Mark.chars, Focus.package,
    Datum.value, printedText]

/-- Whether a form opens with the declaration of the type, the class name of the table in the middle
of its name. -/
def opensType (header : Header) : List Piece → Bool
  | .plain before :: .print (.data .className) :: .plain behind :: _ =>
    (("public class ".toList ++ header.front.toList).isSuffixOf before
        || ("public interface ".toList ++ header.front.toList).isSuffixOf before)
      && (header.back.toList ++ [' ']).isPrefixOf behind
  | _ => false

def check (header : Header) (form : List Piece) : Bool :=
  (behind? header.marks form).any endsHeader && form.tails.any header.opensType

section

variable {header : Header} {form : List Piece} {focus : Focus}

theorem declares_of_check (h : header.check form) (hpackage : '\n' ∉ header.packageLine focus) :
    Declares (textOf form focus) (focus.package header.folder) := by
  rw [check, Bool.and_eq_true] at h
  obtain ⟨rest, hrest, -⟩ := (Option.any_eq_true _ _).mp h.1
  obtain ⟨tail, htail⟩ : ∃ tail,
      (header.lines focus).flatMap (fun line => '\n' :: line) ++ '\n' :: charsOf rest focus =
        '\n' :: tail := by
    cases header.lines focus with
    | nil => exact ⟨charsOf rest focus, rfl⟩
    | cons line others => exact ⟨_, rfl⟩
  rw [Declares, toList_textOf, charsOf_of_behind? hrest, chars_marks, List.append_assoc,
    List.append_assoc, List.singleton_append, htail, List.takeWhile_append_of_pos]
  · simp [packageLine]
  · intro c hc
    rw [bne_iff_ne]
    rintro rfl
    exact hpackage hc

theorem declaresType_of_opensType (h : header.opensType form) :
    DeclaresType (textOf form focus) (header.typeName focus) := by
  unfold opensType at h
  split at h
  case h_2 => cases h
  case h_1 before behind others =>
    rw [Bool.and_eq_true, Bool.or_eq_true, List.isSuffixOf_iff_suffix,
      List.isSuffixOf_iff_suffix, List.isPrefixOf_iff_prefix] at h
    obtain ⟨hkeyword, after, rfl⟩ := h
    rcases hkeyword with ⟨front, rfl⟩ | ⟨front, rfl⟩
    · refine .inl ⟨front, after ++ charsOf others focus, ?_⟩
      simp [Piece.chars, Term.text, Term.value, Datum.value, printedText, typeName]
    · refine .inr ⟨front, after ++ charsOf others focus, ?_⟩
      simp [Piece.chars, Term.text, Term.value, Datum.value, printedText, typeName]

theorem declaresType_of_check (h : header.check form) :
    DeclaresType (textOf form focus) (header.typeName focus) := by
  rw [check, Bool.and_eq_true, List.any_eq_true] at h
  obtain ⟨-, rest, hrest, hopens⟩ := h
  obtain ⟨before, rfl⟩ := (List.mem_tails _ _).mp hrest
  have hinfix : (textOf rest focus).toList <:+: (textOf (before ++ rest) focus).toList := by
    rw [toList_textOf, toList_textOf, charsOf_append]
    exact (List.suffix_append _ _).isInfix
  exact (declaresType_of_opensType hopens).imp (fun hclass => hclass.trans hinfix)
    fun hinterface => hinterface.trans hinfix

/-- The header of a file is the one that its form was checked for. -/
theorem headerLines_eq (h : header.check form)
    (hlines : ∀ line ∈ header.packageLine focus :: header.lines focus,
      isHeaderLine line ∧ '\n' ∉ line) :
    headerLines (textOf form focus).toList = header.packageLine focus :: header.lines focus := by
  rw [check, Bool.and_eq_true] at h
  obtain ⟨rest, hrest, hends⟩ := (Option.any_eq_true _ _).mp h.1
  rw [toList_textOf, charsOf_of_behind? hrest, chars_marks, List.append_assoc,
    List.singleton_append, headerLines_lines hlines, headerLines_of_endsHeader hends,
    List.append_nil]

end

end Header

end Form

end SchemaScaffold
