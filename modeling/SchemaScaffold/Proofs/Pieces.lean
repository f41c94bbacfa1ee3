import SchemaScaffold.Proofs.Balanced
import SchemaScaffold.Proofs.Traversal
import SchemaScaffold.Sql.Lexer

/-!
# The pieces of a statement

A dialect reads a statement piece by piece: each is a token, a blank or a comment. The scan for the
options of a table knows none of this, yet it passes over most pieces as it should. The doubtful
ones are those that hold a quote or a bracket without being a quoted run that both read alike.
-/

namespace SchemaScaffold.Sql

open Script (Balanced IsRun isMark isQuote)

/-- A token, a blank or a comment, with the characters that it is read from. -/
structure Piece where
  token : Option Token
  chars : List Char
  deriving DecidableEq, Repr

def spell (pieces : List Piece) : List Char := pieces.flatMap (·.chars)

/-- Whether the dialect reads the text of these pieces as these pieces. -/
def Lexer.reads (dialect : Dialect) (previous : Option Token) : List Piece → Bool
  | [] => true
  | piece :: rest =>
    !piece.chars.isEmpty
      && (step dialect previous (piece.chars ++ spell rest)).toOption ==
        some (piece.token, spell rest)
      && reads dialect piece.token rest

namespace Piece

def opening : Piece := ⟨some (.symbol "("), ['(']⟩

def closing : Piece := ⟨some (.symbol ")"), [')']⟩

def beginsRun (dialect : Dialect) (piece : Piece) : Bool :=
  piece.chars.head?.any fun c => isQuote c && (dialect == .mysql || c != backtick)

/-- Whether the scan may read a piece otherwise than the dialect. Quoted runs are none of these
pieces, unless a backslash in them means something to one of the two only. -/
def isDoubtful (dialect : Dialect) (piece : Piece) : Bool :=
  piece != opening && piece != closing && piece.chars.any isMark
    && !(piece.beginsRun dialect && (dialect == .mysql || !piece.chars.contains '\\'))

end Piece

inductive Nested : List Piece → Prop where
  | nil : Nested []
  | piece {piece : Piece} {rest : List Piece} (hopening : piece.token ≠ some (.symbol "("))
      (hclosing : piece.token ≠ some (.symbol ")")) (hrest : Nested rest) : Nested (piece :: rest)
  | group {inner rest : List Piece} (hinner : Nested inner) (hrest : Nested rest) :
      Nested (.opening :: inner ++ .closing :: rest)

@[simp]
theorem spell_nil : spell [] = [] := rfl

@[simp]
theorem spell_cons (piece : Piece) (rest : List Piece) :
    spell (piece :: rest) = piece.chars ++ spell rest := rfl

@[simp]
theorem spell_append (before after : List Piece) :
    spell (before ++ after) = spell before ++ spell after := List.flatMap_append

theorem Lexer.reads_cons {dialect : Dialect} {previous : Option Token} {piece : Piece}
    {rest : List Piece} (hchars : piece.chars ≠ [])
    (hstep : step dialect previous (piece.chars ++ spell rest) = .ok (piece.token, spell rest))
    (hrest : reads dialect piece.token rest) : reads dialect previous (piece :: rest) := by
  have hchars : piece.chars.isEmpty = false := by simpa using hchars
  simp [reads, hchars, hstep, hrest, Except.toOption]

theorem Lexer.exists_step_of_reads {dialect : Dialect} {previous : Option Token}
    {before after : List Piece} {piece : Piece}
    (h : reads dialect previous (before ++ piece :: after)) :
    ∃ last, step dialect last (piece.chars ++ spell after) = .ok (piece.token, spell after) := by
  induction before generalizing previous with
  | nil =>
      simp only [List.nil_append, reads, Bool.and_eq_true, beq_iff_eq] at h
      obtain ⟨⟨-, hstep⟩, -⟩ := h
      exact ⟨previous, Traversal.toOption_eq_some_iff.mp hstep⟩
  | cons first rest ih =>
      simp only [List.cons_append, reads, Bool.and_eq_true] at h
      exact ih h.2

theorem Lexer.run_succ {dialect : Dialect} {previous : Option Token} {read : List Lexeme}
    {source : List Char} (fuel : Nat) (hne : source ≠ []) :
    run dialect (fuel + 1) previous read source = match step dialect previous source with
      | .error e => .error e
      | .ok (none, rest) => run dialect fuel none read rest
      | .ok (some t, rest) => run dialect fuel (some t) (⟨t, source⟩ :: read) rest := by
  cases source with
  | nil => exact absurd rfl hne
  | cons c rest => rfl

theorem Lexer.exists_run_of_reads {dialect : Dialect} {previous : Option Token}
    {pieces : List Piece} (h : reads dialect previous pieces) {fuel : Nat}
    (hfuel : (spell pieces).length ≤ fuel) (read : List Lexeme) :
    ∃ lexemes, run dialect fuel previous read (spell pieces) = .ok (read.reverse ++ lexemes) ∧
      lexemes.map (·.token) = pieces.filterMap (·.token) := by
  induction pieces generalizing previous fuel read with
  | nil => exact ⟨[], by simp [run], rfl⟩
  | cons piece rest ih =>
      simp only [reads, Bool.and_eq_true, beq_iff_eq] at h
      obtain ⟨⟨hchars, hstep⟩, hrest⟩ := h
      have hstep := Traversal.toOption_eq_some_iff.mp hstep
      have hne : spell (piece :: rest) ≠ [] := by
        rw [spell_cons]
        exact List.append_ne_nil_of_left_ne_nil (by simpa using hchars) _
      have hpositive : 0 < piece.chars.length := List.length_pos_iff.mpr (by simpa using hchars)
      rw [spell_cons, List.length_append] at hfuel
      obtain ⟨fuel, rfl⟩ := Nat.exists_eq_add_one_of_ne_zero (show fuel ≠ 0 by omega)
      have hlater : (spell rest).length ≤ fuel := by omega
      rw [run_succ fuel hne, spell_cons, hstep]
      cases htoken : piece.token with
      | none =>
          rw [htoken] at hrest
          obtain ⟨lexemes, hrun, htokens⟩ := ih hrest hlater read
          exact ⟨lexemes, hrun, by rw [List.filterMap_cons_none htoken, htokens]⟩
      | some token =>
          rw [htoken] at hrest
          obtain ⟨lexemes, hrun, htokens⟩ :=
            ih hrest hlater (⟨token, piece.chars ++ spell rest⟩ :: read)
          refine ⟨⟨token, piece.chars ++ spell rest⟩ :: lexemes, ?_, ?_⟩
          · rw [List.reverse_cons, List.append_assoc] at hrun
            exact hrun
          · rw [List.filterMap_cons_some htoken, List.map_cons, htokens]

/-! ### Quoted runs -/

/-- What a literal is read from. The scan knows escapes everywhere but between backticks; where the
dialect does not, it must have nothing to know. -/
theorem Literal.exists_run_of_read {quote : Char} {escapes : Bool} {source text after : List Char}
    (h : read quote escapes source = some (text, after)) :
    ∃ run, source = run ++ quote :: after ∧
      ((escapes = true ↔ quote ≠ backtick) ∨ '\\' ∉ run → IsRun quote run) := by
  fun_induction read quote escapes source generalizing text with
  | case1 => cases h
  | case2 c hc =>
      obtain rfl := beq_iff_eq.mp hc
      cases h
      exact ⟨[], rfl, fun _ => .nil⟩
  | case3 => cases h
  | case4 c d rest hc hd ih =>
      obtain rfl := beq_iff_eq.mp hc
      obtain rfl := beq_iff_eq.mp hd
      obtain ⟨⟨inner, tail⟩, hread, hpair⟩ := Option.map_eq_some_iff.mp h
      cases hpair
      obtain ⟨run, rfl, hrun⟩ := ih hread
      refine ⟨d :: d :: run, rfl, fun hplain => .doubled (hrun (hplain.imp_right fun hslash => ?_))⟩
      exact fun hmem => hslash (by simp [hmem])
  | case5 c d rest hc hd =>
      obtain rfl := beq_iff_eq.mp hc
      cases h
      exact ⟨[], rfl, fun _ => .nil⟩
  | case6 c d rest hc hescape ih =>
      simp only [Bool.and_eq_true, beq_iff_eq] at hescape
      obtain ⟨rfl, rfl⟩ := hescape
      obtain ⟨⟨inner, tail⟩, hread, hpair⟩ := Option.map_eq_some_iff.mp h
      cases hpair
      obtain ⟨run, rfl, hrun⟩ := ih hread
      refine ⟨'\\' :: d :: run, rfl, ?_⟩
      rintro (hplain | hslash)
      · exact .escaped d (hplain.mp rfl) (hrun (.inl hplain))
      · exact absurd List.mem_cons_self hslash
  | case7 c d rest hc hescape ih =>
      obtain ⟨⟨inner, tail⟩, hread, hpair⟩ := Option.map_eq_some_iff.mp h
      cases hpair
      obtain ⟨run, hrest, hrun⟩ := ih hread
      refine ⟨c :: run, by rw [hrest, List.cons_append], fun hplain => ?_⟩
      refine .char (by simpa using hc) (fun hbackslash => ?_)
        (hrun (hplain.imp_right fun hslash hmem => hslash (List.mem_cons_of_mem _ hmem)))
      rcases hplain with hplain | hslash
      · by_contra hne
        exact hescape (by simp [hplain.mpr hne, hbackslash])
      · exact absurd (by simp [hbackslash]) hslash

theorem Lexer.exists_read_of_literalStep {make : String → Token} {source rest after : List Char}
    {quote : Char} {escapes : Bool} {token : Option Token}
    (h : literalStep make source quote escapes rest = .ok (token, after)) :
    ∃ text, Literal.read quote escapes rest = some (text, after) := by
  unfold literalStep at h
  split at h <;> cases h
  exact ⟨_, ‹_›⟩

theorem Lexer.exists_read_of_quotedWordStep {source rest after : List Char} {quote : Char}
    {token : Option Token} (h : quotedWordStep source quote rest = .ok (token, after)) :
    ∃ text, Literal.read quote false rest = some (text, after) := by
  unfold quotedWordStep at h
  split at h <;> cases h
  exact ⟨_, ‹_›⟩

/-- A step that begins with a quote of the dialect reads a quoted run. -/
theorem Lexer.exists_run_of_step {dialect : Dialect} {previous token : Option Token} {quote : Char}
    {source after : List Char} (hquote : isQuote quote)
    (hdialect : dialect = .mysql ∨ quote ≠ backtick)
    (h : step dialect previous (quote :: source) = .ok (token, after)) :
    ∃ run, source = run ++ quote :: after ∧
      (dialect = .mysql ∨ '\\' ∉ run → IsRun quote run) := by
  have hread : ∃ escapes text, (dialect = .mysql → (escapes = true ↔ quote ≠ backtick)) ∧
      Literal.read quote escapes source = some (text, after) := by
    simp only [isQuote, Bool.or_eq_true, beq_iff_eq] at hquote
    rcases hquote with (rfl | rfl) | rfl
    · obtain ⟨text, hread⟩ := exists_read_of_literalStep (show literalStep _ _ _ _ _ = _ from h)
      exact ⟨_, text, by rintro rfl; decide, hread⟩
    · cases dialect with
      | mysql =>
          obtain ⟨text, hread⟩ := exists_read_of_literalStep (show literalStep _ _ _ _ _ = _ from h)
          exact ⟨_, text, by decide, hread⟩
      | postgresql =>
          obtain ⟨text, hread⟩ :=
            exists_read_of_quotedWordStep (show quotedWordStep _ _ _ = _ from h)
          exact ⟨_, text, by simp, hread⟩
    · cases dialect with
      | mysql =>
          obtain ⟨text, hread⟩ :=
            exists_read_of_quotedWordStep (show quotedWordStep _ _ _ = _ from h)
          exact ⟨_, text, by decide, hread⟩
      | postgresql =>
          obtain hdialect | hdialect := hdialect
          · cases hdialect
          · exact absurd rfl hdialect
  obtain ⟨escapes, text, hescapes, hread⟩ := hread
  obtain ⟨run, hsource, hrun⟩ := Literal.exists_run_of_read hread
  exact ⟨run, hsource, fun hplain => hrun (hplain.imp_left hescapes)⟩

theorem balanced_of_not_isDoubtful {dialect : Dialect} {previous : Option Token}
    {before after : List Piece} {piece : Piece}
    (h : Lexer.reads dialect previous (before ++ piece :: after))
    (hopening : piece ≠ .opening) (hclosing : piece ≠ .closing)
    (hplain : piece.isDoubtful dialect = false) : Balanced piece.chars := by
  obtain ⟨last, hstep⟩ := Lexer.exists_step_of_reads h
  cases hmark : piece.chars.any isMark with
  | false => exact .of_any_isMark hmark
  | true =>
      obtain ⟨hbegins, hescapes⟩ : piece.beginsRun dialect ∧
          (dialect = .mysql ∨ '\\' ∉ piece.chars) := by
        simpa [Piece.isDoubtful, hopening, hclosing, hmark, or_iff_not_imp_left] using hplain
      cases hchars : piece.chars with
      | nil => simp [Piece.beginsRun, hchars] at hbegins
      | cons quote rest =>
          rw [hchars] at hstep hescapes
          obtain ⟨hquote, hdialect⟩ : isQuote quote ∧ (dialect = .mysql ∨ quote ≠ backtick) := by
            simpa [Piece.beginsRun, hchars] using hbegins
          obtain ⟨run, hsource, hrun⟩ := Lexer.exists_run_of_step hquote hdialect hstep
          rw [List.append_cons] at hsource
          obtain rfl := List.append_cancel_right hsource
          exact .run hquote (hrun (hescapes.imp_right fun hslash hmem => hslash (by simp [hmem])))

theorem Nested.of_forall_ne {list : List Piece}
    (h : ∀ piece ∈ list, piece.token ≠ some (.symbol "(") ∧ piece.token ≠ some (.symbol ")")) :
    Nested list := by
  induction list with
  | nil => exact .nil
  | cons piece rest ih =>
      rw [List.forall_mem_cons] at h
      exact .piece h.1.1 h.1.2 (ih h.2)

/-- A list whose brackets are closed is balanced when all its doubtful pieces are. -/
theorem Nested.balanced {list : List Piece} (h : Nested list)
    (hpieces : ∀ piece ∈ list, piece ≠ .opening → piece ≠ .closing → Balanced piece.chars) :
    Balanced (spell list) := by
  induction h with
  | nil => exact .nil
  | piece hopening hclosing _ ih =>
      rw [List.forall_mem_cons] at hpieces
      have hpiece := hpieces.1 (fun heq => hopening (heq ▸ rfl)) fun heq => hclosing (heq ▸ rfl)
      exact hpiece.append (ih hpieces.2)
  | @group inner rest _ _ ihinner ih =>
      have hinner := ihinner fun piece hpiece => hpieces piece (by simp [hpiece])
      have hrest := ih fun piece hpiece => hpieces piece (by simp [hpiece])
      rw [spell_append, spell_cons, spell_cons]
      exact .nested hinner hrest

end SchemaScaffold.Sql
