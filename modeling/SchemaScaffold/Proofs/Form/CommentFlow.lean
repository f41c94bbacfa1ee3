import Mathlib.Data.List.Dedup
import SchemaScaffold.Proofs.Form.Comments

/-!
# Comments that stay out of the code

The texts that a form has for two tables are read side by side. They are read alike up to a comment,
and again behind what closes the comment, so what is known of the readings is a state, or nothing
until the next line end, behind which only three states are left. The data that are no comments may
be anything, and may themselves open a comment or a string.
-/

namespace SchemaScaffold.Form

open Java (State Harmless)

/-- What is known of two texts that are read side by side. -/
inductive Slot where
  | level
  | settled (state : State)
  | opened (state : State) (closer : List Char)
  deriving DecidableEq

/-- What closes a harmless comment in which state: the end of a line, the blank in front of the end
of a block comment, or the end of an annotation and of its line. -/
def closings : List (State × List Char) := [
  (.inBlock, ['\n']),
  (.inBlock, [' ']),
  (.inBlock, "\")\n".toList),
  (.inString, "\")\n".toList),
  (.failed, ['\n']),
  (.failed, [' ']),
  (.failed, "\")\n".toList)]

theorem run_closed {state : State} {closer : List Char} (hclosing : (state, closer) ∈ closings)
    {chars others : List Char} (hchars : Harmless chars) (hothers : Harmless others) :
    state.run (chars ++ closer) = state.run (others ++ closer) := by
  simp only [closings, List.mem_cons, List.not_mem_nil, or_false, Prod.mk.injEq] at hclosing
  rcases hclosing with ⟨rfl, rfl⟩ | ⟨rfl, rfl⟩ | ⟨rfl, rfl⟩ | ⟨rfl, rfl⟩ | ⟨rfl, -⟩ | ⟨rfl, -⟩ |
    ⟨rfl, -⟩
  · rw [hchars.comment, hothers.comment]
  · rw [hchars.run_inBlock (by decide), hothers.run_inBlock (by decide)]
  · rw [hchars.run_inBlock (by decide), hothers.run_inBlock (by decide)]
  · rw [hchars.string, hothers.string]
  all_goals rw [State.run_failed, State.run_failed]

namespace Slot

def Holds (a b : List Char) : Slot → Prop
  | level => State.start.run a = State.start.run b
  | settled state => State.start.run a = State.start.run b ∧ (State.start.run a).1 = state
  | opened state closer => ∃ front back chars others,
      a = front ++ (chars ++ closer) ∧ b = back ++ (others ++ closer) ∧
        State.start.run front = State.start.run back ∧ (State.start.run front).1 = state ∧
          (chars = others ∨ Harmless chars ∧ Harmless others)

def isLevel : Slot → Bool
  | level | settled _ => true
  | opened .. => false

def behindLine (chars : List Char) : List Slot :=
  State.lineStarts.map fun state => settled (state.run chars).1

def behind (chars : List Char) : List Slot :=
  match chars.dropWhile (· != '\n') with
  | [] => [level]
  | _ :: rest => behindLine rest

def plain (chars : List Char) : Slot → Option (List Slot)
  | level => some (behind chars)
  | settled state => some [settled (state.run chars).1]
  | opened state closer =>
    match closer ++ chars with
    | [] | ['"'] | ['"', ')'] => some [opened state (closer ++ chars)]
    | '"' :: ')' :: '\n' :: rest =>
      if (state, "\")\n".toList) ∈ closings then some (behindLine rest) else none
    | '\n' :: rest => if (state, ['\n']) ∈ closings then some (behindLine rest) else none
    | ' ' :: rest => if (state, [' ']) ∈ closings then some (behind rest) else none
    | _ => none

def print (term : Term) : Slot → Option (List Slot)
  | level => if term.isBlind then some [level] else none
  | settled state =>
    if term.isBlind then some [level]
    else if term.printsComment then some [opened state []] else none
  | opened .. => none

def spread (read : Slot → Option (List Slot)) : List Slot → Option (List Slot)
  | [] => some []
  | slot :: rest => do return (← read slot) ++ (← spread read rest)

end Slot

mutual

def Piece.flow : Piece → Slot → Option (List Slot)
  | .plain chars, slot => slot.plain chars
  | .print term, slot => slot.print term
  | .branch condition yes no, slot =>
    if condition.isSteady then do return (← flowAll yes [slot]) ++ (← flowAll no [slot]) else none
  | .forColumns keep body, slot =>
    if keep.isBlind && slot.isLevel && (flowAll body [.level]).any (·.all Slot.isLevel)
    then some [.level] else none
  | .forImports body, slot =>
    if slot.isLevel && (flowAll body [.level]).any (·.all Slot.isLevel)
    then some [.level] else none

def flowAll : List Piece → List Slot → Option (List Slot)
  | [], slots => some slots
  | piece :: rest, slots => do flowAll rest (← Slot.spread piece.flow slots).dedup

end

/-! ## What is known holds -/

namespace Slot

variable {a b : List Char} {slot : Slot}

theorem run_eq_of_isLevel (hlevel : slot.isLevel) (h : slot.Holds a b) :
    State.start.run a = State.start.run b := by
  cases slot with
  | level => exact h
  | settled state => exact h.1
  | opened state closer => cases hlevel

/-- Texts that are read alike are still read alike behind the same characters. -/
theorem run_append_eq (h : State.start.run a = State.start.run b) (chars : List Char) :
    State.start.run (a ++ chars) = State.start.run (b ++ chars) := by
  rw [State.run_append, State.run_append, h]

theorem exists_behindLine (h : State.start.run (a ++ ['\n']) = State.start.run (b ++ ['\n']))
    (chars : List Char) :
    ∃ next ∈ behindLine chars, next.Holds (a ++ '\n' :: chars) (b ++ '\n' :: chars) := by
  have hstate := State.run_newline_mem .start a
  refine ⟨_, List.mem_map_of_mem hstate, ?_, ?_⟩
  · have hread := run_append_eq h chars
    simpa using hread
  · have hread := State.run_append .start (a ++ ['\n']) chars
    rw [List.append_assoc, List.singleton_append] at hread
    rw [hread]

theorem exists_behind (h : State.start.run a = State.start.run b) (chars : List Char) :
    ∃ next ∈ behind chars, next.Holds (a ++ chars) (b ++ chars) := by
  unfold behind
  split
  · exact ⟨level, List.mem_singleton_self _, run_append_eq h chars⟩
  · rename_i c rest hrest
    have hline : c = '\n' := by
      have hhead := List.head?_dropWhile_not (fun c => c != '\n') chars
      simpa [hrest] using hhead
    subst hline
    have hchars : chars = chars.takeWhile (· != '\n') ++ '\n' :: rest := by
      rw [← hrest, List.takeWhile_append_dropWhile]
    obtain ⟨next, hnext, hholds⟩ := exists_behindLine
      (run_append_eq (run_append_eq h (chars.takeWhile (· != '\n'))) ['\n']) rest
    rw [hchars]
    exact ⟨next, hnext, by simpa using hholds⟩

/-- Texts that are read alike up to comments are read alike again behind what closes them. -/
theorem run_eq_of_closing {front back chars others closing : List Char}
    (hrun : State.start.run front = State.start.run back)
    (halike : chars = others ∨ Harmless chars ∧ Harmless others)
    (hclosing : ((State.start.run front).1, closing) ∈ closings) :
    State.start.run (front ++ (chars ++ closing)) =
      State.start.run (back ++ (others ++ closing)) := by
  rw [State.run_append, State.run_append _ back, ← hrun]
  rcases halike with rfl | ⟨hchars, hothers⟩
  · rfl
  · rw [run_closed hclosing hchars hothers]

theorem exists_of_plain {chars : List Char} {slots : List Slot}
    (hslots : slot.plain chars = some slots) (h : slot.Holds a b) :
    ∃ next ∈ slots, next.Holds (a ++ chars) (b ++ chars) := by
  cases slot with
  | level =>
      obtain rfl := Option.some.inj hslots
      exact exists_behind h chars
  | settled state =>
      obtain rfl := Option.some.inj hslots
      obtain ⟨hrun, rfl⟩ := h
      exact ⟨_, List.mem_singleton_self _, run_append_eq hrun chars, by rw [State.run_append]⟩
  | opened state closer =>
      obtain ⟨front, back, comment, other, rfl, rfl, hrun, rfl, halike⟩ := h
      rw [plain] at hslots
      simp only [List.append_assoc]
      -- The comment may be closed by what was there and the new characters only together.
      generalize closer ++ chars = closing at hslots ⊢
      have hopen : (opened (State.start.run front).1 closing).Holds
          (front ++ (comment ++ closing)) (back ++ (other ++ closing)) :=
        ⟨front, back, comment, other, rfl, rfl, hrun, rfl, halike⟩
      split at hslots
      case h_1 | h_2 | h_3 =>
        obtain rfl := Option.some.inj hslots
        exact ⟨_, List.mem_singleton_self _, hopen⟩
      case h_4 rest =>
        split at hslots
        case isFalse => cases hslots
        case isTrue hclosing =>
          obtain rfl := Option.some.inj hslots
          have hclosed := run_eq_of_closing hrun halike hclosing
          have hline := exists_behindLine (a := front ++ (comment ++ ['"', ')']))
            (b := back ++ (other ++ ['"', ')'])) (by simpa using hclosed) rest
          simpa using hline
      case h_5 rest =>
        split at hslots
        case isFalse => cases hslots
        case isTrue hclosing =>
          obtain rfl := Option.some.inj hslots
          have hclosed := run_eq_of_closing hrun halike hclosing
          have hline := exists_behindLine (a := front ++ comment) (b := back ++ other)
            (by simpa using hclosed) rest
          simpa using hline
      case h_6 rest =>
        split at hslots
        case isFalse => cases hslots
        case isTrue hclosing =>
          obtain rfl := Option.some.inj hslots
          have hclosed := run_eq_of_closing hrun halike hclosing
          have hbehind := exists_behind hclosed rest
          simpa using hbehind
      case h_7 => cases hslots

theorem exists_of_print {focus other : Focus} (hmatches : focus.Matches Alike other) {term : Term}
    {slots : List Slot} (hslots : slot.print term = some slots) (h : slot.Holds a b) :
    ∃ next ∈ slots, next.Holds (a ++ (term.text focus).toList) (b ++ (term.text other).toList) := by
  have hblind : term.isBlind → term.text other = term.text focus := fun hterm => by
    rw [Term.text, Term.value_eq hmatches hterm, Term.text]
  cases slot with
  | level =>
      rw [print] at hslots
      split at hslots
      case isFalse => cases hslots
      case isTrue hterm =>
        obtain rfl := Option.some.inj hslots
        rw [hblind hterm]
        exact ⟨_, List.mem_singleton_self _, run_append_eq h _⟩
  | settled state =>
      rw [print] at hslots
      split at hslots
      case isTrue hterm =>
        obtain rfl := Option.some.inj hslots
        rw [hblind hterm]
        exact ⟨_, List.mem_singleton_self _, run_append_eq h.1 _⟩
      case isFalse =>
        split at hslots
        case isFalse => cases hslots
        case isTrue hterm =>
          obtain rfl := Option.some.inj hslots
          refine ⟨_, List.mem_singleton_self _, a, b, _, _, by rw [List.append_nil],
            by rw [List.append_nil], h.1, h.2, ?_⟩
          exact (Term.text_eq_or_harmless hmatches hterm).imp_left (congrArg String.toList)
  | opened state closer => cases hslots

theorem exists_of_spread {read : Slot → Option (List Slot)} {slots nexts : List Slot}
    (hspread : spread read slots = some nexts) (hslot : slot ∈ slots) :
    ∃ own, read slot = some own ∧ own ⊆ nexts := by
  induction slots generalizing nexts with
  | nil => cases hslot
  | cons first rest ih =>
      simp only [spread, Option.bind_eq_bind, Option.bind_eq_some_iff, Option.pure_def,
        Option.some.injEq] at hspread
      obtain ⟨own, hown, others, hothers, rfl⟩ := hspread
      rcases List.mem_cons.mp hslot with rfl | hrest
      · exact ⟨own, hown, List.subset_append_left own others⟩
      · obtain ⟨own', hown', hsubset⟩ := ih hothers hrest
        exact ⟨own', hown', List.subset_append_of_subset_right own hsubset⟩

/-- What is read alike at all places of a repetition is read alike behind it. -/
theorem holds_flatMap {body : List Piece}
    (hbody : ∀ {focus other : Focus} {a b : List Char}, focus.Matches Alike other → level.Holds a b →
      level.Holds (a ++ charsOf body focus) (b ++ charsOf body other))
    {places others : List Focus} (hplaces : List.Forall₂ (Focus.Matches Alike) places others)
    {a b : List Char} (h : level.Holds a b) :
    level.Holds (a ++ places.flatMap (charsOf body)) (b ++ others.flatMap (charsOf body)) := by
  induction hplaces generalizing a b with
  | nil => simpa using h
  | cons hplace _ ih =>
      have hrest := ih (hbody hplace h)
      simpa [List.flatMap_cons] using hrest

end Slot

def Piece.Follows (piece : Piece) : Prop :=
  ∀ ⦃slot : Slot⦄ ⦃slots : List Slot⦄ ⦃focus other : Focus⦄ ⦃a b : List Char⦄,
    piece.flow slot = some slots → focus.Matches Alike other → slot.Holds a b →
      ∃ next ∈ slots, next.Holds (a ++ piece.chars focus) (b ++ piece.chars other)

def AllFollow (form : List Piece) : Prop :=
  ∀ ⦃slots nexts : List Slot⦄ ⦃slot : Slot⦄ ⦃focus other : Focus⦄ ⦃a b : List Char⦄,
    flowAll form slots = some nexts → focus.Matches Alike other → slot ∈ slots → slot.Holds a b →
      ∃ next ∈ nexts, next.Holds (a ++ charsOf form focus) (b ++ charsOf form other)

namespace AllFollow

theorem nil : AllFollow [] := by
  intro slots nexts slot focus other a b hflow _ hslot h
  obtain rfl := Option.some.inj hflow
  exact ⟨slot, hslot, by simpa using h⟩

theorem cons {piece : Piece} {rest : List Piece} (hpiece : piece.Follows)
    (hrest : AllFollow rest) : AllFollow (piece :: rest) := by
  intro slots nexts slot focus other a b hflow hmatches hslot h
  simp only [flowAll, Option.bind_eq_bind, Option.bind_eq_some_iff] at hflow
  obtain ⟨middle, hmiddle, hlast⟩ := hflow
  obtain ⟨own, hown, hsubset⟩ := Slot.exists_of_spread hmiddle hslot
  obtain ⟨between, hbetween, hholds⟩ := hpiece hown hmatches h
  obtain ⟨next, hnext, hbehind⟩ :=
    hrest hlast hmatches (List.mem_dedup.mpr (hsubset hbetween)) hholds
  rw [charsOf_cons, charsOf_cons, ← List.append_assoc, ← List.append_assoc]
  exact ⟨next, hnext, hbehind⟩

theorem level {body : List Piece} (hbody : AllFollow body)
    (hlevels : (flowAll body [.level]).any (·.all Slot.isLevel)) {focus other : Focus}
    {a b : List Char} (hmatches : focus.Matches Alike other) (h : Slot.level.Holds a b) :
    Slot.level.Holds (a ++ charsOf body focus) (b ++ charsOf body other) := by
  obtain ⟨nexts, hflow, hall⟩ := (Option.any_eq_true _ _).mp hlevels
  obtain ⟨next, hnext, hholds⟩ := hbody hflow hmatches (List.mem_singleton_self _) h
  exact Slot.run_eq_of_isLevel (List.all_eq_true.mp hall next hnext) hholds

theorem branch {yes no : List Piece} (hyes : AllFollow yes) (hno : AllFollow no)
    (condition : Term) : (Piece.branch condition yes no).Follows := by
  intro slot slots focus other a b hflow hmatches h
  rw [Piece.flow] at hflow
  split at hflow
  case isFalse => cases hflow
  case isTrue hsteady =>
    simp only [Option.bind_eq_bind, Option.bind_eq_some_iff, Option.pure_def,
      Option.some.injEq] at hflow
    obtain ⟨yesSlots, hyesFlow, noSlots, hnoFlow, rfl⟩ := hflow
    have hslot := List.mem_singleton_self slot
    rw [Piece.chars, Piece.chars, Term.holds_eq (fun _ _ => Alike.empty) hmatches hsteady]
    split
    · obtain ⟨next, hnext, hholds⟩ := hyes hyesFlow hmatches hslot h
      exact ⟨next, List.mem_append_left _ hnext, hholds⟩
    · obtain ⟨next, hnext, hholds⟩ := hno hnoFlow hmatches hslot h
      exact ⟨next, List.mem_append_right _ hnext, hholds⟩

theorem forColumns {body : List Piece} (hbody : AllFollow body) (keep : Term) :
    (Piece.forColumns keep body).Follows := by
  intro slot slots focus other a b hflow hmatches h
  rw [Piece.flow] at hflow
  split at hflow
  case isFalse => cases hflow
  case isTrue hchecks =>
    simp only [Bool.and_eq_true] at hchecks
    obtain ⟨⟨hkeep, hslot⟩, hlevels⟩ := hchecks
    obtain rfl := Option.some.inj hflow
    refine ⟨.level, List.mem_singleton_self _, ?_⟩
    exact Slot.holds_flatMap (hbody.level hlevels) (hmatches.atColumns hkeep)
      (Slot.run_eq_of_isLevel hslot h)

theorem forImports {body : List Piece} (hbody : AllFollow body) :
    (Piece.forImports body).Follows := by
  intro slot slots focus other a b hflow hmatches h
  rw [Piece.flow] at hflow
  split at hflow
  case isFalse => cases hflow
  case isTrue hchecks =>
    obtain ⟨hslot, hlevels⟩ := (Bool.and_eq_true _ _).mp hchecks
    obtain rfl := Option.some.inj hflow
    refine ⟨.level, List.mem_singleton_self _, ?_⟩
    exact Slot.holds_flatMap (hbody.level hlevels) hmatches.atImports
      (Slot.run_eq_of_isLevel hslot h)

end AllFollow

mutual

theorem Piece.follows : ∀ piece : Piece, piece.Follows
  | .plain _ => by
      intro slot slots focus other a b hflow _ h
      exact Slot.exists_of_plain hflow h
  | .print _ => by
      intro slot slots focus other a b hflow hmatches h
      exact Slot.exists_of_print hmatches hflow h
  | .branch condition yes no => (allFollow yes).branch (allFollow no) condition
  | .forColumns keep body => (allFollow body).forColumns keep
  | .forImports body => (allFollow body).forImports

theorem allFollow : ∀ form : List Piece, AllFollow form
  | [] => AllFollow.nil
  | piece :: rest => AllFollow.cons piece.follows (allFollow rest)

end

def keepsComments (form : List Piece) : Bool :=
  (flowAll form [.settled .start]).any (·.all Slot.isLevel)

theorem stripped_eq {form : List Piece} (h : keepsComments form) {focus other : Focus}
    (hmatches : focus.Matches Alike other) :
    Java.stripped (textOf form focus) = Java.stripped (textOf form other) := by
  obtain ⟨nexts, hflow, hlevels⟩ := (Option.any_eq_true _ _).mp h
  have hstart : (Slot.settled .start).Holds [] [] := ⟨rfl, rfl⟩
  obtain ⟨next, hnext, hholds⟩ :=
    allFollow form hflow hmatches (List.mem_singleton_self _) hstart
  rw [Java.stripped, Java.stripped, toList_textOf, toList_textOf]
  exact Slot.run_eq_of_isLevel (List.all_eq_true.mp hlevels next hnext) hholds

end SchemaScaffold.Form
