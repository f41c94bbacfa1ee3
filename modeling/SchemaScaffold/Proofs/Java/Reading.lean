import Mathlib.Data.List.Basic

/-!
# Reading Java sources

What is left of a Java source without its comments and without the contents of its literals is
code. The source is read by the rules of Java 8, the oldest version that a project may be written
for: escaped characters count as themselves before anything else, so they end a comment or a literal
like any others, and what does not fit the rules is an error that nothing recovers from.
-/

namespace SchemaScaffold.Java

inductive Mode where
  | code
  | slash
  | lineComment
  | block
  | star
  | literal (quote : Char)
  | escape (quote : Char)
  | error
  deriving DecidableEq

namespace Mode

def endsLine (c : Char) : Bool := c == '\n' || c == '\r'

def isEscaped (c : Char) : Bool :=
  ['b', 't', 'n', 'f', 'r', '"', '\'', '\\', '0', '1', '2', '3', '4', '5', '6', '7'].contains c

def readCode (c : Char) : Mode × List Char :=
  if c == '/' then (slash, [])
  else if c == '"' || c == '\'' then (literal c, [c])
  else (code, [c])

/-- Reads a character, and keeps it unless it stands in a comment or in a literal. -/
def read (c : Char) : Mode → Mode × List Char
  | code => readCode c
  | slash =>
    if c == '/' then (lineComment, [])
    else if c == '*' then (block, [])
    else ((readCode c).1, '/' :: (readCode c).2)
  | lineComment => if endsLine c then (code, [c]) else (lineComment, [])
  | block => if c == '*' then (star, []) else (block, [])
  | star => if c == '/' then (code, []) else if c == '*' then (star, []) else (block, [])
  | literal quote =>
    if c == quote then (code, [c])
    else if endsLine c then (error, [])
    else if c == '\\' then (escape quote, [])
    else (literal quote, [])
  | escape quote => if isEscaped c then (literal quote, []) else (error, [])
  | error => (error, [])

theorem read_newline_mem (mode : Mode) : (mode.read '\n').1 ∈ [code, block, error] := by
  cases mode with
  | literal quote =>
      rw [read]
      by_cases hquote : '\n' == quote
      · rw [if_pos hquote]
        simp
      · rw [if_neg hquote]
        simp [endsLine]
  | escape quote => simp [read, isEscaped]
  | code | slash | lineComment | block | star | error => decide

end Mode

inductive Prelude where
  | none
  | backslash
  | digits (count value : Nat)
  deriving DecidableEq

structure State where
  ahead : Prelude := .none
  mode : Mode
  deriving DecidableEq

namespace State

def start : State := { mode := .code }

def inBlock : State := { mode := .block }

def inString : State := { mode := .literal '"' }

def failed : State := { mode := .error }

def hexValue? (c : Char) : Option Nat :=
  if c.isDigit then some (c.toNat - '0'.toNat)
  else if 'a' ≤ c && c ≤ 'f' then some (c.toNat - 'a'.toNat + 10)
  else if 'A' ≤ c && c ≤ 'F' then some (c.toNat - 'A'.toNat + 10)
  else none

def plain (mode : Mode) (c : Char) : State × List Char :=
  ({ mode := (mode.read c).1 }, (mode.read c).2)

def pair (mode : Mode) (c : Char) : State × List Char :=
  ({ mode := ((mode.read '\\').1.read c).1 },
    (mode.read '\\').2 ++ ((mode.read '\\').1.read c).2)

def readNext (c : Char) (mode : Mode) : Prelude → State × List Char
  | .none => if c == '\\' then ({ ahead := .backslash, mode }, []) else plain mode c
  | .backslash => if c == 'u' then ({ ahead := .digits 0 0, mode }, []) else pair mode c
  | .digits count value =>
    if c == 'u' && count == 0 then ({ ahead := .digits 0 0, mode }, [])
    else
      match hexValue? c with
      | some digit =>
        if count == 3 then plain mode (Char.ofNat (16 * value + digit))
        else ({ ahead := .digits (count + 1) (16 * value + digit), mode }, [])
      | none => (failed, [])

def read (c : Char) (state : State) : State × List Char :=
  if state.mode = .error then (failed, []) else readNext c state.mode state.ahead

def run (state : State) : List Char → State × List Char
  | [] => (state, [])
  | c :: rest =>
    match state.read c with
    | (next, kept) => ((next.run rest).1, kept ++ (next.run rest).2)

theorem run_cons (state : State) (c : Char) (rest : List Char) :
    state.run (c :: rest) =
      (((state.read c).1.run rest).1, (state.read c).2 ++ ((state.read c).1.run rest).2) := rfl

theorem run_append (state : State) (front back : List Char) :
    state.run (front ++ back) =
      (((state.run front).1.run back).1, (state.run front).2 ++ ((state.run front).1.run back).2) := by
  induction front generalizing state with
  | nil => rfl
  | cons c rest ih => simp only [List.cons_append, run_cons, ih, List.append_assoc]

theorem run_failed (chars : List Char) : failed.run chars = (failed, []) := by
  induction chars with
  | nil => rfl
  | cons c rest ih =>
      have hread : failed.read c = (failed, []) := rfl
      rw [run_cons, hread, ih]
      rfl

def lineStarts : List State := [start, inBlock, failed]

theorem mem_lineStarts {mode : Mode} (h : mode ∈ [.code, .block, .error]) :
    { mode } ∈ lineStarts := by
  simpa [lineStarts, start, inBlock, failed] using h

theorem read_newline_mem (state : State) : (state.read '\n').1 ∈ lineStarts := by
  rw [read]
  split
  · exact mem_lineStarts (by simp)
  · cases state.ahead with
    | none => exact mem_lineStarts (Mode.read_newline_mem _)
    | backslash => exact mem_lineStarts (Mode.read_newline_mem _)
    | digits count value => exact mem_lineStarts (by simp)

theorem run_newline_mem (state : State) (chars : List Char) :
    (state.run (chars ++ ['\n'])).1 ∈ lineStarts := by
  rw [run_append]
  exact read_newline_mem _

end State

/-- What reads a line end and is in a block comment behind it was in one before. -/
theorem Mode.mem_of_read_newline {mode : Mode} (h : mode.read '\n' = (block, [])) :
    mode ∈ [block, star] := by
  cases mode with
  | literal quote =>
      rw [read] at h
      split at h
      · cases h
      · simp [endsLine] at h
  | escape quote => simp [read, isEscaped] at h
  | block | star => simp
  | code | slash | lineComment | error => revert h; decide

theorem Mode.mem_of_read_backslash {mode : Mode} (h : (mode.read '\\').1 ∈ [block, star]) :
    mode ∈ [block, star] := by
  cases mode with
  | literal quote =>
      rw [read] at h
      split at h
      · simp at h
      · simp [endsLine] at h
  | escape quote => simp [read, isEscaped] at h
  | block | star => simp
  | code | slash | lineComment | error => revert h; decide

namespace State

def commentEnds : List State := [inBlock, { mode := .star }, { ahead := .backslash, mode := .block },
  { ahead := .backslash, mode := .star }]

theorem mem_commentEnds {state : State} (h : state.read '\n' = (inBlock, [])) :
    state ∈ commentEnds := by
  obtain ⟨ahead, mode⟩ := state
  have hmode : mode ∈ [.block, .star] ∧ ahead ∈ [.none, .backslash] := by
    rw [read] at h
    split at h
    · cases h
    · cases ahead with
      | none =>
          obtain ⟨hstate, hkept⟩ := Prod.mk.inj h
          have hread : mode.read '\n' = (.block, []) :=
            Prod.ext (congrArg State.mode hstate) hkept
          exact ⟨Mode.mem_of_read_newline hread, by simp⟩
      | backslash =>
          obtain ⟨hstate, hkept⟩ := Prod.mk.inj h
          have hread : (mode.read '\\').1.read '\n' = (.block, []) :=
            Prod.ext (congrArg State.mode hstate) (List.append_eq_nil_iff.mp hkept).2
          exact ⟨Mode.mem_of_read_backslash (Mode.mem_of_read_newline hread), by simp⟩
      | digits count value => cases h
  obtain ⟨hmode, hahead⟩ := hmode
  simp only [List.mem_cons, List.not_mem_nil, or_false] at hmode hahead
  rcases hmode with rfl | rfl <;> rcases hahead with rfl | rfl <;> decide

end State

/-- A text that neither ends a comment nor a string that it stands in. A string is followed by the
end of an annotation and of its line. -/
structure Harmless (chars : List Char) : Prop where
  comment : State.inBlock.run (chars ++ ['\n']) = (.inBlock, [])
  string : State.inString.run (chars ++ "\")\n".toList) = (.start, "\")\n".toList)

instance (chars : List Char) : Decidable (Harmless chars) :=
  decidable_of_iff
    (State.inBlock.run (chars ++ ['\n']) = (.inBlock, []) ∧
      State.inString.run (chars ++ "\")\n".toList) = (.start, "\")\n".toList))
    ⟨fun h => ⟨h.1, h.2⟩, fun h => ⟨h.comment, h.string⟩⟩

namespace Harmless

variable {chars : List Char}

/-- A harmless text in a block comment leaves the comment open to whatever cannot end it. -/
theorem run_inBlock (h : Harmless chars) {closer : List Char}
    (hcloser : ∀ state ∈ State.commentEnds, state.run closer = (.inBlock, [])) :
    State.inBlock.run (chars ++ closer) = (.inBlock, []) := by
  have hcomment := h.comment
  rw [State.run_append] at hcomment ⊢
  obtain ⟨hstate, hkept⟩ := Prod.mk.inj hcomment
  obtain ⟨hchars, hnewline⟩ := List.append_eq_nil_iff.mp hkept
  have hend : (State.inBlock.run chars).1 ∈ State.commentEnds := by
    refine State.mem_commentEnds (Prod.ext hstate ?_)
    simpa [State.run] using hnewline
  rw [hcloser _ hend, hchars]
  rfl

def isOrdinary (c : Char) : Bool := ! ['"', '\\', '\n', '\r', '*'].contains c

theorem run_ordinary {state : State} (hread : ∀ c, isOrdinary c → state.read c = (state, []))
    (h : ∀ c ∈ chars, isOrdinary c) : state.run chars = (state, []) := by
  induction chars with
  | nil => rfl
  | cons c rest ih =>
      rw [List.forall_mem_cons] at h
      rw [State.run_cons, hread c h.1, ih h.2]
      rfl

theorem run_inBlock_ordinary (h : chars.all isOrdinary) :
    State.inBlock.run chars = (.inBlock, []) := by
  refine run_ordinary (fun c hc => ?_) (List.all_eq_true.mp h)
  simp_all [isOrdinary, State.read, State.inBlock, State.readNext, State.plain, Mode.read]

theorem run_inString_ordinary (h : chars.all isOrdinary) :
    State.inString.run chars = (.inString, []) := by
  refine run_ordinary (fun c hc => ?_) (List.all_eq_true.mp h)
  simp_all [isOrdinary, State.read, State.inString, State.readNext, State.plain, Mode.read,
    Mode.endsLine]

theorem of_ordinary (h : chars.all isOrdinary) : Harmless chars := by
  constructor
  · rw [State.run_append, run_inBlock_ordinary h]
    decide
  · rw [State.run_append, run_inString_ordinary h]
    decide

end Harmless

section

variable {state : State} {front back chars other closer : List Char}

/-- Sources that are read alike are so behind a text that alone differs. -/
theorem run_behind_eq (hfront : (State.start.run front).1 = state)
    (heq : State.start.run (front ++ (chars ++ closer) ++ back) =
      State.start.run (front ++ (other ++ closer) ++ back)) :
    ((state.run (chars ++ closer)).1.run back).1 = ((state.run (other ++ closer)).1.run back).1 ∧
      (state.run (chars ++ closer)).2 ++ ((state.run (chars ++ closer)).1.run back).2 =
        (state.run (other ++ closer)).2 ++ ((state.run (other ++ closer)).1.run back).2 := by
  rw [List.append_assoc, List.append_assoc front, State.run_append _ front,
    State.run_append _ front, hfront, State.run_append _ (chars ++ closer),
    State.run_append _ (other ++ closer)] at heq
  obtain ⟨hstate, hkept⟩ := Prod.mk.inj heq
  exact ⟨hstate, List.append_cancel_left hkept⟩

/-- A text that goes wrong in a block comment is not read like a harmless one, when the code behind
the comment is shorter than all that stands behind the text. -/
theorem run_ne_of_comment (hfront : (State.start.run front).1 = .inBlock)
    (hback : (State.inBlock.run back).1 = .start)
    (hlength : (State.inBlock.run back).2.length < (State.start.run back).2.length)
    (hother : Harmless other) (hchars : State.inBlock.run (chars ++ ['\n']) ≠ (.inBlock, [])) :
    State.start.run (front ++ (chars ++ ['\n']) ++ back) ≠
      State.start.run (front ++ (other ++ ['\n']) ++ back) := by
  intro heq
  obtain ⟨hstate, hkept⟩ := run_behind_eq hfront heq
  rw [hother.comment, List.nil_append] at hkept
  rw [hother.comment, hback] at hstate
  have hline := State.run_newline_mem .inBlock chars
  generalize State.inBlock.run (chars ++ ['\n']) = read at hchars hstate hkept hline
  obtain ⟨behind, kept⟩ := read
  dsimp only at hstate hkept hline
  simp only [State.lineStarts, List.mem_cons, List.not_mem_nil, or_false] at hline
  rcases hline with rfl | rfl | rfl
  · have hlengths := congrArg List.length hkept
    rw [List.length_append] at hlengths
    omega
  · have hnil : kept = [] := List.append_left_eq_self.mp hkept
    exact hchars (by rw [hnil])
  · rw [State.run_failed] at hstate
    cases hstate

/-- A text that goes wrong in a string is not read like a harmless one, when nothing behind the
string ends a block comment. -/
theorem run_ne_of_string (hfront : (State.start.run front).1 = .inString)
    (hback : (State.start.run back).1 = .start) (hblock : (State.inBlock.run back).1 ≠ .start)
    (hother : Harmless other)
    (hchars : State.inString.run (chars ++ "\")\n".toList) ≠ (.start, "\")\n".toList)) :
    State.start.run (front ++ (chars ++ "\")\n".toList) ++ back) ≠
      State.start.run (front ++ (other ++ "\")\n".toList) ++ back) := by
  intro heq
  obtain ⟨hstate, hkept⟩ := run_behind_eq hfront heq
  rw [hother.string] at hkept
  rw [hother.string, hback] at hstate
  have hline := State.run_newline_mem .inString (chars ++ ['"', ')'])
  have hcloser : chars ++ ['"', ')'] ++ ['\n'] = chars ++ "\")\n".toList := by simp
  rw [hcloser] at hline
  generalize State.inString.run (chars ++ "\")\n".toList) = read at hchars hstate hkept hline
  obtain ⟨behind, kept⟩ := read
  dsimp only at hstate hkept hline
  simp only [State.lineStarts, List.mem_cons, List.not_mem_nil, or_false] at hline
  rcases hline with rfl | rfl | rfl
  · have hsame : kept = "\")\n".toList := List.append_cancel_right hkept
    exact hchars (by rw [hsame])
  · exact hblock hstate
  · rw [State.run_failed] at hstate
    cases hstate

end

/-- A source without its comments and without the contents of its literals, and where the reading
of it ends. -/
def stripped (source : String) : State × List Char := State.start.run source.toList

end SchemaScaffold.Java
