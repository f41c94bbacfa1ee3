import SchemaScaffold.Proofs.Form.Holes
import SchemaScaffold.Proofs.Markup

namespace SchemaScaffold.Form

open Markup

def mayStandInMarkup (hole : Hole) : Bool := hole != .comment

def columnChoices : List Datum := [.isPrimaryKey, .isLast]

/-- Whether the text of pieces begins and ends outside of tags, and has no element with an `id`. -/
def isIdle (pieces : List Piece) : Bool :=
  (Settings.all columnChoices).all fun settings =>
    ((lettersOf? settings pieces).bind (State.text.runGapped mayStandInMarkup)).any
      fun (final, tags) => final = .text && (tags.filterMap Element.ofTag?).isEmpty

def readPiece? (settings : Settings) (state : State (Letter Hole)) :
    Piece → Option (State (Letter Hole) × List (Element (Letter Hole)))
  | .forColumns _ body => if state = .text && isIdle body then some (.text, []) else none
  | piece => do
    let (next, tags) ← state.runGapped mayStandInMarkup (← piece.letters? settings)
    return (next, tags.filterMap Element.ofTag?)

def elementsOf? (settings : Settings) (state : State (Letter Hole)) :
    List Piece → Option (State (Letter Hole) × List (Element (Letter Hole)))
  | [] => some (state, [])
  | piece :: rest => do
    let (next, found) ← readPiece? settings state piece
    let (final, others) ← elementsOf? settings next rest
    return (final, found ++ others)

/-- The names at a place are not read as markup. -/
def FillsInertly (focus : Focus) : Prop :=
  ∀ hole, mayStandInMarkup hole → (hole.fill focus).all isInert

variable {focus : Focus} {data : List Datum}

theorem reads_of_isIdle {pieces : List Piece} (h : isIdle pieces) {place : Focus}
    (hplace : FillsInertly place) (fill : Hole → List Char) :
    Reads fill .text (charsOf pieces place) .text [] := by
  have hsettings := List.all_eq_true.mp h _ (Settings.at_mem_all place columnChoices)
  obtain ⟨⟨final, tags⟩, hread, hidle⟩ := (Option.any_eq_true _ _).mp hsettings
  obtain ⟨letters, hletters, hread⟩ := Option.bind_eq_some_iff.mp hread
  rw [Bool.and_eq_true, decide_eq_true_iff, List.isEmpty_iff] at hidle
  have hreads := Reads.ofRun hplace hread
  rw [hidle.1, hidle.2, ← charsOf_of_lettersOf? hletters] at hreads
  exact ⟨hreads.final, hreads.found⟩

theorem reads_flatMap_of_isIdle {pieces : List Piece} (h : isIdle pieces) {places : List Focus}
    (hplaces : ∀ place ∈ places, FillsInertly place) (fill : Hole → List Char) :
    Reads fill .text (places.flatMap (charsOf pieces)) .text [] := by
  induction places with
  | nil => exact .nil _
  | cons place rest ih =>
      rw [List.forall_mem_cons] at hplaces
      rw [List.flatMap_cons]
      exact (reads_of_isIdle h hplaces.1 fill).append (ih hplaces.2)

section

variable (hfill : FillsInertly focus)
  (hcolumns : ∀ keep, ∀ place ∈ focus.atColumns keep, FillsInertly place)
include hfill hcolumns

theorem reads_of_readPiece? {state next : State (Letter Hole)} {piece : Piece}
    {found : List (Element (Letter Hole))}
    (h : readPiece? (Settings.at focus data) state piece = some (next, found)) :
    Reads (Hole.fill focus) state (piece.chars focus) next found := by
  unfold readPiece? at h
  split at h
  case h_1 keep body =>
    split at h
    case isFalse => cases h
    case isTrue hcheck =>
      cases h
      rw [Bool.and_eq_true, decide_eq_true_iff] at hcheck
      obtain ⟨rfl, hidle⟩ := hcheck
      exact reads_flatMap_of_isIdle hidle (hcolumns keep) _
  case h_2 =>
    obtain ⟨letters, hletters, h⟩ := Option.bind_eq_some_iff.mp h
    obtain ⟨⟨next', tags⟩, hread, hpair⟩ := Option.bind_eq_some_iff.mp h
    cases hpair
    rw [Piece.chars_of_letters? hletters]
    exact Reads.ofRun hfill hread

theorem reads_of_elementsOf? {state final : State (Letter Hole)} {form : List Piece}
    {found : List (Element (Letter Hole))}
    (h : elementsOf? (Settings.at focus data) state form = some (final, found)) :
    Reads (Hole.fill focus) state (charsOf form focus) final found := by
  induction form generalizing state final found with
  | nil =>
      cases h
      exact .nil _
  | cons piece rest ih =>
      obtain ⟨⟨next, first⟩, hpiece, h⟩ := Option.bind_eq_some_iff.mp h
      obtain ⟨⟨final', others⟩, hrest, hpair⟩ := Option.bind_eq_some_iff.mp h
      cases hpair
      rw [charsOf_cons]
      exact (reads_of_readPiece? hfill hcolumns hpiece).append (ih hrest)

end

end SchemaScaffold.Form
