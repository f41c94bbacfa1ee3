import SchemaScaffold.Proofs.CommentClauses
import SchemaScaffold.Proofs.Pieces
import SchemaScaffold.Proofs.SchemaReading

/-!
# Own comments of tables

A table that no statement of its own comments on has the comment among the options of its
definition. The scan that looks for it sees brackets and quotes in comments as well, so it is led
astray by a comment in which these are not closed, and by a comment before the list of columns with
a bracket in it. Of the options it sees the text alone, and the first mention of `COMMENT` there
decides.
-/

namespace SchemaScaffold

namespace Sql

def statedComment? : List Token → Option String
  | .singleQuoted text :: _ => some text
  | .symbol "=" :: .singleQuoted text :: _ => some text
  | _ => none

/-- The first comment option among tokens that follow some open brackets. It stands outside all
brackets, and before the query that a definition may end with. -/
def commentOption (depth : Nat) : List Token → Option String
  | [] => none
  | token :: rest =>
    if token = .symbol "(" then commentOption (depth + 1) rest
    else if token = .symbol ")" then commentOption (depth - 1) rest
    else if depth = 0 && (token.isKeyword "AS" || token.isKeyword "SELECT") then none
    else if depth = 0 && token.isKeyword "COMMENT" then
      (statedComment? rest).or (commentOption depth rest)
    else commentOption depth rest

def ownComment (dialect : Dialect) (text : String) : Option String :=
  match tokens dialect text.toList with
  | .ok lexemes => commentOption 0 (lexemes.map (·.token))
  | .error _ => none

/-- Whether a text is a single statement: the dialect reads no semicolon in it. -/
def IsSingle (dialect : Dialect) (text : String) : Prop :=
  ∀ lexeme ∈ (tokens dialect text.toList).toOption.getD [], lexeme.token ≠ .symbol ";"

theorem commentOption_append_of_plain {before : List Token}
    (h : ∀ token ∈ before, token ≠ .symbol "(" ∧
      ∀ word ∈ ["AS", "SELECT", "COMMENT"], token.isKeyword word = false) (rest : List Token) :
    commentOption 0 (before ++ rest) = commentOption 0 rest := by
  induction before with
  | nil => rfl
  | cons token more ih =>
      rw [List.forall_mem_cons] at h
      obtain ⟨hopening, hwords⟩ := h.1
      simp only [List.forall_mem_cons] at hwords
      obtain ⟨has, hselect, hcomment, -⟩ := hwords
      rw [List.cons_append, commentOption]
      simp [hopening, has, hselect, hcomment, ih h.2]

theorem commentOption_nested {list : List Piece} (h : Nested list) (depth : Nat)
    (rest : List Token) :
    commentOption (depth + 1) (list.filterMap (·.token) ++ rest) =
      commentOption (depth + 1) rest := by
  induction h generalizing depth rest with
  | nil => rfl
  | @piece piece more hopening hclosing _ ih =>
      cases htoken : piece.token with
      | none => rw [List.filterMap_cons_none htoken, ih]
      | some token =>
          rw [htoken, ne_eq, Option.some.injEq] at hopening hclosing
          rw [List.filterMap_cons_some htoken, List.cons_append, commentOption, if_neg hopening,
            if_neg hclosing]
          simp [ih]
  | @group inner more _ _ ihinner ih =>
      have hgroup : (Piece.opening :: inner ++ .closing :: more).filterMap (·.token) ++ rest =
          .symbol "(" :: (inner.filterMap (·.token) ++
            .symbol ")" :: (more.filterMap (·.token) ++ rest)) := by
        simp [Piece.opening, Piece.closing]
      rw [hgroup, commentOption, if_pos rfl, ihinner, commentOption, if_neg (by decide),
        if_pos rfl, Nat.add_sub_cancel, ih]

/-- The pieces of a single statement that defines a table: those before the list of columns, those
in it and those behind it. -/
structure Layout (dialect : Dialect) (text : String) where
  head : List Piece
  list : List Piece
  options : List Piece
  spells : spell (head ++ .opening :: list ++ .closing :: options) = text.toList
  reads : Lexer.reads dialect none (head ++ .opening :: list ++ .closing :: options)
  nested : Nested list
  single : ∀ piece ∈ head ++ .opening :: list ++ .closing :: options,
    piece.token ≠ some (.symbol ";")

namespace Layout

variable {dialect : Dialect} {text : String}

/-- Nothing in the text leads the scan astray: no bracket opens before the list, the doubtful pieces
in the list are balanced, and the first mention of `COMMENT` in the options, if there is one, states
the comment. -/
structure IsPlain (layout : Layout dialect text) : Prop where
  head : '(' ∉ spell layout.head
  list : ∀ piece ∈ layout.list, piece.isDoubtful dialect → Script.Balanced piece.chars
  options : match ownComment dialect text with
    | some comment => Script.States comment.toList (spell layout.options)
    | none => Script.mentionsComment (spell layout.options) = false

theorem toList_eq (layout : Layout dialect text) : text.toList =
    spell layout.head ++ '(' :: spell layout.list ++ ')' :: spell layout.options := by
  rw [← layout.spells]
  simp [Piece.opening, Piece.closing]

/-- Nothing in the list of columns is taken for the own comment of the table. -/
theorem ownComment_eq (layout : Layout dialect text)
    (hhead : ∀ token ∈ layout.head.filterMap (·.token),
      token ≠ .symbol "(" ∧ ∀ word ∈ ["AS", "SELECT", "COMMENT"], token.isKeyword word = false) :
    ownComment dialect text = commentOption 0 (layout.options.filterMap (·.token)) := by
  obtain ⟨lexemes, hrun, htokens⟩ := Lexer.exists_run_of_reads layout.reads (Nat.le_refl _) []
  rw [layout.spells] at hrun
  rw [ownComment, tokens, hrun]
  change commentOption 0 (lexemes.map (·.token)) = _
  rw [htokens, List.filterMap_append, List.filterMap_append, List.append_assoc,
    commentOption_append_of_plain hhead]
  change commentOption 1 (layout.list.filterMap (·.token) ++ .symbol ")" ::
    layout.options.filterMap (·.token)) = _
  rw [commentOption_nested layout.nested 0]
  rfl

/-- The scan finds the options behind a list of columns exactly when the list, with the comments in
it, is balanced. -/
theorem tableOptions_eq_iff (layout : Layout dialect text) (hhead : '(' ∉ spell layout.head) :
    Script.tableOptions text.toList = some (spell layout.options) ↔
      Script.Balanced (spell layout.list) := by
  rw [layout.toList_eq]
  exact Script.tableOptions_eq_iff hhead

theorem IsPlain.balanced {layout : Layout dialect text} (h : layout.IsPlain) :
    Script.Balanced (spell layout.list) := by
  refine layout.nested.balanced fun piece hpiece hopening hclosing => ?_
  cases hdoubtful : piece.isDoubtful dialect with
  | true => exact h.list piece hpiece hdoubtful
  | false =>
      obtain ⟨before, after, hlist⟩ := List.append_of_mem hpiece
      have hreads := layout.reads
      rw [hlist] at hreads
      simp only [List.append_assoc, List.cons_append] at hreads
      rw [← List.cons_append, ← List.append_assoc] at hreads
      exact balanced_of_not_isDoubtful hreads hopening hclosing hdoubtful

/-- The comment that the scan finds in a plain text is the own one of the table. -/
theorem IsPlain.tableComment_eq {layout : Layout dialect text} (h : layout.IsPlain) :
    Script.tableComment text = ownComment dialect text := by
  have hoptions := (layout.tableOptions_eq_iff h.head).mpr h.balanced
  have hcomment := h.options
  rw [Script.tableComment, hoptions, Option.bind_some]
  cases hown : ownComment dialect text with
  | none =>
      rw [hown] at hcomment
      rw [Script.optionComment_eq_none hcomment, Option.map_none]
  | some comment =>
      rw [hown] at hcomment
      rw [Script.optionComment_of_states hcomment, Option.map_some, String.ofList_toList]

end Layout

inductive PlainlyCommented (dialect : Dialect) (text : String) : Prop where
  | listed (layout : Layout dialect text) (hplain : layout.IsPlain)
  | unlisted (hsingle : IsSingle dialect text) (hopening : '(' ∉ text.toList)
      (hnone : ownComment dialect text = none)

theorem PlainlyCommented.tableComment_eq {dialect : Dialect} {text : String}
    (h : PlainlyCommented dialect text) : Script.tableComment text = ownComment dialect text := by
  cases h with
  | listed layout hplain => exact hplain.tableComment_eq
  | unlisted _ hopening hnone =>
      have hnothing : text.toList.dropWhile (· != '(') = [] := by
        rw [List.dropWhile_eq_nil_iff]
        intro c hc
        rw [bne_iff_ne]
        rintro rfl
        exact hopening hc
      rw [hnone, Script.tableComment, Script.tableOptions, hnothing, Script.afterClosing.eq_def]
      rfl

end Sql

namespace Schema

open Sql (CreateTable)

def lateComments (dialect : Dialect) (script : String) : List LateComment :=
  (parsed (reader dialect) script).flatMap commentOf

/-- Unless a statement of its own comments on it, a table has the comment among the options of its
definition, without the apostrophes, and none if there is no such option. -/
def HasOwnComment (dialect : Dialect) (comments : List LateComment)
    (definition : CreateTable × String) (table : Table) : Prop :=
  tableComment? comments (Text.lower (tableName definition.1)) = none →
    table.comment = Text.withoutApostrophes ((Sql.ownComment dialect definition.2).getD "")

theorem comment_of_toTable {comments : List LateComment} {create : CreateTable} {text : String}
    {table : Table} (h : toTable comments create text = .ok table) :
    table.comment = Text.withoutApostrophes ((lateComment comments create text).getD "") := by
  rw [toTable_eq] at h
  obtain ⟨columns, -, htable⟩ := Traversal.bind_eq_ok_iff.mp h
  obtain ⟨-, rfl⟩ := (Table.make_eq_ok_iff _ _ _ _).mp htable
  simp only [Table.of]

/-- Every table of a script whose definition is plainly commented has its own comment. The options
of a definition are found exactly when what stands between the brackets of its list is balanced,
unless a bracket comes before the list. -/
theorem tables_have_own_comments (dialect : Dialect) (script : String) (tables : List Table)
    (h : parse dialect script = .ok tables) :
    List.Forall₂ (fun definition table => Sql.PlainlyCommented dialect definition.2 →
        HasOwnComment dialect (lateComments dialect script) definition table)
      (definitions (reader dialect) script) tables ∧
      ∀ definition ∈ definitions (reader dialect) script,
        ∀ layout : Sql.Layout dialect definition.2, '(' ∉ Sql.spell layout.head →
          (Script.tableOptions definition.2.toList = some (Sql.spell layout.options) ↔
            Script.Balanced (Sql.spell layout.list)) := by
  refine ⟨?_, fun _ _ layout => layout.tableOptions_eq_iff⟩
  obtain ⟨-, -, htables⟩ := (parseWith_eq_ok_iff (reader dialect) script tables).mp h
  refine htables.imp fun definition table htable hplain hlate => ?_
  rw [comment_of_toTable htable, lateComment, ← lateComments, hlate, Option.none_or,
    hplain.tableComment_eq]

/-! ### A table of clocks -/

namespace Clocks

open Sql (Piece Layout)

/-- A definition with an apostrophe and a semicolon in a comment before it, and with brackets in its
list that only a literal and a comment hold. -/
def script : String := "-- it's;\nCREATE TABLE t(id int COMMENT ')'/*(a)*/)COMMENT='o''clock'"

def word (text : String) : Piece := ⟨some (.word text none (Text.upper text)), text.toList⟩

def gap (text : String) : Piece := ⟨none, text.toList⟩

def literal (text : String) (chars : String) : Piece := ⟨some (.singleQuoted text), chars.toList⟩

def layout : Layout .mysql script where
  head := [gap "-- it's;\n", word "CREATE", gap " ", word "TABLE", gap " ", word "t"]
  list := [word "id", gap " ", word "int", gap " ", word "COMMENT", gap " ", literal ")" "')'",
    gap "/*(a)*/"]
  options := [word "COMMENT", ⟨some (.symbol "="), ['=']⟩, literal "o'clock" "'o''clock'"]
  spells := by decide
  reads := by decide +kernel
  nested := .of_forall_ne (by decide)
  single := by decide

theorem ownComment_script : Sql.ownComment .mysql script = some "o'clock" := by
  rw [layout.ownComment_eq (by decide)]
  rfl

theorem isPlain_layout : layout.IsPlain where
  head := by decide
  list := by
    intro piece hpiece hdoubtful
    have hcomment : piece.chars = ['/', '*'] ++ ('(' :: ['a'] ++ ')' :: ['*', '/']) := by
      revert piece
      decide
    rw [hcomment]
    exact (Script.Balanced.of_any_isMark (by decide)).append
      (.nested (.of_any_isMark (by decide)) (.of_any_isMark (by decide)))
  options := by
    rw [ownComment_script]
    exact @Script.States.clause _ [] "COMMENT".toList [] ['='] [] [] rfl (by simp) (by decide)
      (by simp) (.inr rfl) (by simp)

theorem statements_script : Script.statements script = [script] := by decide +kernel

theorem text_of_definition : ∀ definition ∈ definitions (reader .mysql) script,
    definition.2 = script := by
  intro definition hmem
  have htext := mem_statements_of_mem_definitions hmem
  rwa [statements_script, List.mem_singleton] at htext

theorem parse_script : ∃ tables, parse .mysql script = .ok tables ∧
    tables.map (fun table => (table.name, table.comment)) = [("t", "oclock")] := by
  have hparse : (parse .mysql script).toOption.map
      (·.map fun table => (table.name, table.comment)) = some [("t", "oclock")] := by
    simp only [parse, parseWith, Text.isBlankText_eq, readScript, statements_script]
    decide +kernel
  obtain ⟨tables, htables, hcomments⟩ := Option.map_eq_some_iff.mp hparse
  exact ⟨tables, Traversal.toOption_eq_some_iff.mp htables, hcomments⟩

end Clocks

/-- The apostrophe and the semicolon before the definition do no harm, nor do the brackets in its
list. -/
theorem tables_have_own_comments_clocks :
    ∃ tables, parse .mysql Clocks.script = .ok tables ∧
      tables.map (fun table => (table.name, table.comment)) = [("t", "oclock")] ∧
      (∀ definition ∈ definitions (reader .mysql) Clocks.script,
        Sql.PlainlyCommented .mysql definition.2) ∧
      List.Forall₂ (HasOwnComment .mysql (lateComments .mysql Clocks.script))
        (definitions (reader .mysql) Clocks.script) tables := by
  obtain ⟨tables, hparse, hcomments⟩ := Clocks.parse_script
  have hplain : ∀ definition ∈ definitions (reader .mysql) Clocks.script,
      Sql.PlainlyCommented .mysql definition.2 := by
    intro definition hmem
    rw [Clocks.text_of_definition definition hmem]
    exact .listed Clocks.layout Clocks.isPlain_layout
  have hown := (tables_have_own_comments .mysql Clocks.script tables hparse).1
  have hall := (List.forall₂_and_left _ _).mpr ⟨hplain, hown⟩
  exact ⟨tables, hparse, hcomments, hplain, hall.imp fun _ _ h => h.2 h.1⟩

def usersScript : String :=
  "-- users (legacy)\nCREATE TABLE t (id int COMMENT 'key') COMMENT='users'"

/-- Behind a comment with brackets, the comment of a column is taken for the one of the table. -/
theorem users_have_comment_of_key :
    ∃ tables, parse .mysql usersScript = .ok tables ∧ tables.map (·.comment) = ["key"] ∧
      ¬List.Forall₂ (HasOwnComment .mysql (lateComments .mysql usersScript))
        (definitions (reader .mysql) usersScript) tables := by
  have hstatements : Script.statements usersScript = [usersScript] := by decide +kernel
  have hparse : (parse .mysql usersScript).toOption.map (·.map (·.comment)) = some ["key"] := by
    simp only [parse, parseWith, Text.isBlankText_eq, readScript, hstatements]
    decide +kernel
  have hdefinitions : (parsed (reader .mysql) usersScript).map
      (fun statement => ((definition? statement).map (·.2), commentOf statement)) =
        [(some usersScript, [])] := by
    simp only [parsed, hstatements]
    decide +kernel
  have hcomment : Sql.ownComment .mysql usersScript = some "users" := by decide
  obtain ⟨tables, htables, hcomments⟩ := Option.map_eq_some_iff.mp hparse
  refine ⟨tables, Traversal.toOption_eq_some_iff.mp htables, hcomments, fun hown => ?_⟩
  obtain ⟨statement, hparsed, hpair⟩ := List.map_eq_singleton_iff.mp hdefinitions
  obtain ⟨hdefinition, hlate⟩ := Prod.mk.inj hpair
  obtain ⟨definition, hdefinition, htext⟩ := Option.map_eq_some_iff.mp hdefinition
  obtain ⟨table, rfl, htable⟩ := List.map_eq_singleton_iff.mp hcomments
  simp only [lateComments, definitions, hparsed, List.flatMap_singleton, hlate,
    List.filterMap_cons, hdefinition, List.forall₂_cons] at hown
  have hkey := hown.1 rfl
  rw [htable, htext, hcomment] at hkey
  revert hkey
  decide

end Schema

end SchemaScaffold
