import Mathlib.Data.List.Infix
import SchemaScaffold.Proofs.Form.Basic
import SchemaScaffold.Proofs.Paths

/-!
# Headers of files

The header of a Java file is everything up to the first line that is neither empty nor a declaration
of a package or an import, and only there an import is looked for. The same line inside a comment
imports nothing, but only while the comment lasts: what a table is commented with can end the comment
that it stands in, and an import behind that end is one of the file that does not count here.

That a header lacks a line is read off the form of the file by running through its lines with gaps
for the data, where a part of a line that is no part of the target rules it out.
-/

namespace SchemaScaffold

def isHeaderLine (line : List Char) : Bool :=
  line.isEmpty || "package ".toList.isPrefixOf line || "import ".toList.isPrefixOf line

def headerLines (chars : List Char) : List (List Char) :=
  (Text.fields '\n' chars).takeWhile isHeaderLine

def importLine (path : String) : List Char := ("import " ++ path ++ ";").toList

def Imports (content path : String) : Prop := importLine path ∈ headerLines content.toList

theorem importLine_ne_nil (path : String) : importLine path ≠ [] := by
  simp [importLine]

theorem headerLines_line {line : List Char} (hline : '\n' ∉ line) (rest : List Char) :
    headerLines (line ++ '\n' :: rest) =
      if isHeaderLine line then line :: headerLines rest else [] := by
  rw [headerLines, Text.fields_append, Text.fields_of_not_mem hline, List.singleton_append,
    List.takeWhile_cons]
  rfl

theorem headerLines_newline (rest : List Char) :
    headerLines ('\n' :: rest) = [] :: headerLines rest := by
  have hempty := headerLines_line (List.not_mem_nil : '\n' ∉ []) rest
  exact hempty

def opensHeaderLine (start : List Char) : Bool :=
  start.isEmpty
    || start.isPrefixOf "package ".toList || "package ".toList.isPrefixOf start
    || start.isPrefixOf "import ".toList || "import ".toList.isPrefixOf start

theorem opensHeaderLine_of_isHeaderLine {start line : List Char} (hstarts : start <+: line)
    (hline : isHeaderLine line) : opensHeaderLine start := by
  simp only [isHeaderLine, Bool.or_eq_true, List.isEmpty_iff, List.isPrefixOf_iff_prefix] at hline
  simp only [opensHeaderLine, Bool.or_eq_true, List.isEmpty_iff, List.isPrefixOf_iff_prefix]
  rcases hline with (rfl | hpackage) | himport
  · simp [List.prefix_nil.mp hstarts]
  · rcases List.prefix_or_prefix_of_prefix hstarts hpackage with h | h <;>
      simp only [h, true_or, or_true]
  · rcases List.prefix_or_prefix_of_prefix hstarts himport with h | h <;>
      simp only [h, true_or, or_true]

theorem headerLines_eq_nil {line : List Char} (hline : '\n' ∉ line) {start : List Char}
    (hstarts : start <+: line) (hstart : ¬opensHeaderLine start) (rest : List Char) :
    headerLines (line ++ rest) = [] := by
  obtain ⟨first, others, -, hfields⟩ := Text.exists_fields_append hline rest
  have hheader : ¬isHeaderLine (line ++ first) := fun h =>
    hstart (opensHeaderLine_of_isHeaderLine (hstarts.trans (List.prefix_append line first)) h)
  rw [headerLines, hfields, List.takeWhile_cons_of_neg hheader]

namespace Form

/-- How far a header is read, without the target so far. -/
inductive Reading where
  | fresh
  | within (start : List Char) (clear : Bool)
  | ended
  deriving DecidableEq

namespace Reading

def part (target chars : List Char) : Reading → Reading
  | fresh => if chars.isEmpty then fresh else within chars !decide (chars <:+: target)
  | within start clear => within start (clear || !decide (chars <:+: target))
  | ended => ended

/-- Reads the end of a line. A line that may be the target cannot be followed. -/
def newline : Reading → Option Reading
  | fresh => some fresh
  | within start clear =>
    if opensHeaderLine start then if clear then some fresh else none else some ended
  | ended => some ended

def lines (target : List Char) : List (List Char) → Reading → Option Reading
  | [], reading => some reading
  | [last], reading => some (reading.part target last)
  | line :: rest, reading => do lines target rest (← (reading.part target line).newline)

def data (staysInLine : Bool) : Reading → Option Reading
  | fresh => if staysInLine then some (within [] false) else none
  | within start clear =>
    if opensHeaderLine start then if staysInLine then some (within start clear) else none
    else some ended
  | ended => some ended

end Reading

/-- No line of the header of a text is the target unless one of what follows the text is. -/
def Passes (target text : List Char) : Prop :=
  ∀ rest, target ∈ headerLines (text ++ rest) → target ∈ headerLines rest

def Reached (target text : List Char) : Reading → Prop
  | .fresh => Passes target text
  | .within start clear => ∃ before line, text = before ++ line ∧ Passes target before ∧
      '\n' ∉ line ∧ start <+: line ∧ (clear = true → ¬line <:+: target)
  | .ended => ∀ rest, target ∉ headerLines (text ++ rest)

section

variable {target text : List Char} {reading : Reading}

theorem Reached.ended_append (h : Reached target text .ended) (others : List Char) :
    Reached target (text ++ others) .ended := by
  intro rest
  rw [List.append_assoc]
  exact h (others ++ rest)

/-- Behind the start of a line that cannot belong to the header, the header is over. -/
theorem Reached.ended_of_within {start : List Char} {clear : Bool}
    (h : Reached target text (.within start clear)) (hstart : ¬opensHeaderLine start) :
    Reached target text .ended := by
  obtain ⟨before, line, rfl, hbefore, hline, hstarts, -⟩ := h
  intro rest hmem
  rw [List.append_assoc] at hmem
  have hlast := hbefore _ hmem
  rw [headerLines_eq_nil hline hstarts hstart] at hlast
  cases hlast

theorem Reached.part {chars : List Char} (h : Reached target text reading)
    (hchars : '\n' ∉ chars) : Reached target (text ++ chars) (reading.part target chars) := by
  cases reading with
  | fresh =>
      rw [Reading.part]
      split <;> rename_i hempty
      · rw [List.isEmpty_iff] at hempty
        rw [hempty, List.append_nil]
        exact h
      · exact ⟨text, chars, rfl, h, hchars, List.prefix_refl chars, by simp⟩
  | within start clear =>
      obtain ⟨before, line, rfl, hbefore, hline, hstarts, hclear⟩ := h
      refine ⟨before, line ++ chars, List.append_assoc .., hbefore, by simp [hline, hchars],
        hstarts.trans (List.prefix_append line chars), ?_⟩
      intro h hinfix
      rw [Bool.or_eq_true, Bool.not_eq_true', decide_eq_false_iff_not] at h
      rcases h with h | h
      · exact hclear h ((List.prefix_append line chars).isInfix.trans hinfix)
      · exact h ((List.suffix_append line chars).isInfix.trans hinfix)
  | ended => exact h.ended_append chars

theorem Reached.newline (htarget : target ≠ []) (h : Reached target text reading)
    {next : Reading} (hnext : reading.newline = some next) :
    Reached target (text ++ ['\n']) next := by
  cases reading with
  | fresh =>
      obtain rfl := Option.some.inj hnext
      intro rest hmem
      rw [List.append_assoc] at hmem
      have hlast := h _ hmem
      rw [List.singleton_append, headerLines_newline] at hlast
      exact (List.mem_cons.mp hlast).resolve_left htarget
  | within start clear =>
      rw [Reading.newline] at hnext
      split at hnext <;> rename_i hstart
      · split at hnext <;> rename_i hclear
        · obtain rfl := Option.some.inj hnext
          obtain ⟨before, line, rfl, hbefore, hline, -, hnot⟩ := h
          intro rest hmem
          rw [List.append_assoc, List.append_assoc] at hmem
          have hlast := hbefore _ hmem
          rw [List.singleton_append, headerLines_line hline] at hlast
          split at hlast
          · refine (List.mem_cons.mp hlast).resolve_left ?_
            rintro rfl
            exact hnot hclear (List.infix_refl _)
          · cases hlast
        · cases hnext
      · obtain rfl := Option.some.inj hnext
        exact (h.ended_of_within hstart).ended_append ['\n']
  | ended =>
      obtain rfl := Option.some.inj hnext
      exact h.ended_append ['\n']

theorem Reached.lines (htarget : target ≠ []) {lines : List (List Char)}
    (hlines : ∀ line ∈ lines, '\n' ∉ line) (h : Reached target text reading) {next : Reading}
    (hnext : reading.lines target lines = some next) :
    Reached target (text ++ ['\n'].intercalate lines) next := by
  induction lines generalizing text reading with
  | nil =>
      obtain rfl := Option.some.inj hnext
      simpa using h
  | cons line rest ih =>
      rw [List.forall_mem_cons] at hlines
      cases rest with
      | nil =>
          obtain rfl := Option.some.inj hnext
          rw [List.intercalate_singleton]
          exact h.part hlines.1
      | cons second others =>
          obtain ⟨middle, hmiddle, hnext⟩ := Option.bind_eq_some_iff.mp hnext
          have hsecond := ih hlines.2 ((h.part hlines.1).newline htarget hmiddle) hnext
          simpa [List.intercalate_cons_cons] using hsecond

theorem Reached.data {staysInLine : Bool} {chars : List Char}
    (hchars : staysInLine = true → '\n' ∉ chars) (h : Reached target text reading)
    {next : Reading} (hnext : reading.data staysInLine = some next) :
    Reached target (text ++ chars) next := by
  cases reading with
  | fresh =>
      rw [Reading.data] at hnext
      split at hnext <;> rename_i hstays
      · obtain rfl := Option.some.inj hnext
        exact ⟨text, chars, rfl, h, hchars hstays, List.nil_prefix, by simp⟩
      · cases hnext
  | within start clear =>
      rw [Reading.data] at hnext
      split at hnext <;> rename_i hstart
      · split at hnext <;> rename_i hstays
        · obtain rfl := Option.some.inj hnext
          obtain ⟨before, line, rfl, hbefore, hline, hstarts, hclear⟩ := h
          refine ⟨before, line ++ chars, List.append_assoc .., hbefore,
            by simp [hline, hchars hstays], hstarts.trans (List.prefix_append line chars), ?_⟩
          intro h hinfix
          exact hclear h ((List.prefix_append line chars).isInfix.trans hinfix)
        · cases hnext
      · obtain rfl := Option.some.inj hnext
        exact (h.ended_of_within hstart).ended_append chars
  | ended =>
      obtain rfl := Option.some.inj hnext
      exact h.ended_append chars

end

def Term.staysInLine : Term → Bool
  | data .packageName | data .className => true
  | _ => false

mutual

def Piece.leads (target : List Char) (accepts : Reading → Bool) : Piece → Reading → Bool
  | .plain chars, reading => (reading.lines target (Text.fields '\n' chars)).any accepts
  | .print term, reading => (reading.data term.staysInLine).any accepts
  | .branch _ yes no, reading =>
    allLead target accepts yes reading && allLead target accepts no reading
  | .forColumns .., reading | .forImports _, reading => reading == .ended && accepts .ended

/-- Whether pieces lead from a reading to one that is accepted. Behind the header they need not be
looked at. -/
def allLead (target : List Char) (accepts : Reading → Bool) : List Piece → Reading → Bool
  | [], reading => accepts reading
  | piece :: rest, reading =>
    if reading == .ended then accepts .ended
    else piece.leads target (allLead target accepts rest) reading

end

structure Focus.InLine (focus : Focus) : Prop where
  packageName : '\n' ∉ focus.project.packageName.toList
  className : '\n' ∉ focus.table.className.toList

theorem Focus.InLine.not_mem_text {focus : Focus} (hline : focus.InLine) {term : Term}
    (hterm : term.staysInLine = true) : '\n' ∉ (term.text focus).toList := by
  unfold Term.staysInLine at hterm
  split at hterm
  · rw [Term.text, Term.value, Datum.value, Template.printedText]
    exact hline.packageName
  · rw [Term.text, Term.value, Datum.value, Template.printedText]
    exact hline.className
  · cases hterm

section

variable {target : List Char} {focus : Focus}

mutual

theorem exists_reached_of_leads (htarget : target ≠ []) (hline : focus.InLine)
    {accepts : Reading → Bool} {text : List Char} : ∀ {piece : Piece} {reading : Reading},
    piece.leads target accepts reading → Reached target text reading →
    ∃ next, accepts next = true ∧ Reached target (text ++ piece.chars focus) next
  | .plain chars, reading, h, hreached => by
      obtain ⟨next, hnext, haccepts⟩ := (Option.any_eq_true _ _).mp h
      have hlines := hreached.lines htarget (fun _ => Text.not_mem_of_mem_fields) hnext
      rw [Text.intercalate_fields] at hlines
      rw [Piece.chars]
      exact ⟨next, haccepts, hlines⟩
  | .print term, reading, h, hreached => by
      obtain ⟨next, hnext, haccepts⟩ := (Option.any_eq_true _ _).mp h
      exact ⟨next, haccepts, hreached.data hline.not_mem_text hnext⟩
  | .branch condition yes no, reading, h, hreached => by
      rw [Piece.leads, Bool.and_eq_true] at h
      rw [Piece.chars]
      split
      · exact exists_reached_of_allLead htarget hline h.1 hreached
      · exact exists_reached_of_allLead htarget hline h.2 hreached
  | .forColumns keep body, reading, h, hreached => by
      rw [Piece.leads, Bool.and_eq_true, beq_iff_eq] at h
      obtain ⟨rfl, haccepts⟩ := h
      exact ⟨.ended, haccepts, hreached.ended_append _⟩
  | .forImports body, reading, h, hreached => by
      rw [Piece.leads, Bool.and_eq_true, beq_iff_eq] at h
      obtain ⟨rfl, haccepts⟩ := h
      exact ⟨.ended, haccepts, hreached.ended_append _⟩

theorem exists_reached_of_allLead (htarget : target ≠ []) (hline : focus.InLine)
    {accepts : Reading → Bool} {text : List Char} : ∀ {form : List Piece} {reading : Reading},
    allLead target accepts form reading → Reached target text reading →
    ∃ next, accepts next = true ∧ Reached target (text ++ charsOf form focus) next
  | [], reading, h, hreached => ⟨reading, h, by simpa using hreached⟩
  | piece :: rest, reading, h, hreached => by
      rw [allLead] at h
      split at h <;> rename_i hended
      · obtain rfl := beq_iff_eq.mp hended
        exact ⟨.ended, h, hreached.ended_append _⟩
      · obtain ⟨middle, hmiddle, hreached⟩ := exists_reached_of_leads htarget hline h hreached
        obtain ⟨next, haccepts, hnext⟩ := exists_reached_of_allLead htarget hline hmiddle hreached
        refine ⟨next, haccepts, ?_⟩
        rw [charsOf_cons, ← List.append_assoc]
        exact hnext

end

end

/-- Whether no file of a form has the target as a line of its header. -/
def lacksHeaderLine (target : List Char) (form : List Piece) : Bool :=
  allLead target (· == .ended) form .fresh

theorem not_mem_headerLines {target : List Char} (htarget : target ≠ []) {form : List Piece}
    (h : lacksHeaderLine target form) {focus : Focus} (hline : focus.InLine) :
    target ∉ headerLines (charsOf form focus) := by
  have hfresh : Reached target [] .fresh := fun rest hmem => hmem
  obtain ⟨next, hended, hreached⟩ := exists_reached_of_allLead htarget hline h hfresh
  obtain rfl := beq_iff_eq.mp hended
  simpa using hreached []

end Form

end SchemaScaffold
