import SchemaScaffold.Proofs.ClosedTexts
import SchemaScaffold.Proofs.CommentLiterals
import SchemaScaffold.Proofs.CommentReplay
import SchemaScaffold.Proofs.TableComments

namespace SchemaScaffold

namespace Sql

open LiteralPart

/-- The dialect reads these characters between apostrophes as a literal of this text. -/
def Denotes (literal : List Char) (text : String) : Prop :=
  ∃ previous after, Lexer.step .mysql previous ('\'' :: (literal ++ '\'' :: after)) =
    .ok (some (.singleQuoted text), after)

theorem step_literal (parts : List LiteralPart) (previous : Option Token) {after : List Char}
    (hafter : after.head? ≠ some '\'') :
    Lexer.step .mysql previous ('\'' :: (spelled parts ++ '\'' :: after)) =
      .ok (some (.singleQuoted (String.ofList (denoted parts))), after) := by
  change Lexer.literalStep .singleQuoted _ '\'' true _ = _
  rw [Lexer.literalStep, Literal.read_spelled parts hafter]
  rfl

theorem exists_parts_of_step {previous : Option Token} {source after : List Char} {text : String}
    (h : Lexer.step .mysql previous ('\'' :: source) = .ok (some (.singleQuoted text), after)) :
    ∃ parts, source = spelled parts ++ '\'' :: after ∧ after.head? ≠ some '\'' := by
  obtain ⟨chars, hread⟩ :=
    Lexer.exists_read_of_literalStep (show Lexer.literalStep _ _ _ _ _ = _ from h)
  obtain ⟨parts, hsource, hafter, -⟩ := (Literal.read_eq_some_iff _ _ _).mp hread
  exact ⟨parts, hsource, hafter⟩

theorem Denotes.exists_parts {literal : List Char} {text : String} (h : Denotes literal text) :
    ∃ parts, literal = spelled parts := by
  obtain ⟨previous, after, hstep⟩ := h
  obtain ⟨parts, hsource, -⟩ := exists_parts_of_step hstep
  exact ⟨parts, List.append_cancel_right hsource⟩

theorem denotes_spelled_iff (parts : List LiteralPart) (text : String) :
    Denotes (spelled parts) text ↔ text = String.ofList (denoted parts) := by
  constructor
  · rintro ⟨previous, after, hstep⟩
    obtain ⟨-, -, hafter⟩ := exists_parts_of_step hstep
    rw [step_literal parts previous hafter] at hstep
    cases hstep
    rfl
  · rintro rfl
    exact ⟨none, [], step_literal parts none (by simp)⟩

end Sql

namespace Schema

open Sql (CreateTable Denotes Layout LiteralPart Piece)
open Sql.LiteralPart

/-- A table of a MySQL script whose definition gives it a literal as its comment. Nothing in the
definition hides its options, and no statement of its own comments on the table. -/
inductive TableCommented (literal : List Char) (table : Table) : Prop where
  | intro {script : String} {tables : List Table} {definition : CreateTable × String}
      {after : List Char} (hparse : parse .mysql script = .ok tables)
      (hdefines : (definition, table) ∈ (definitions (reader .mysql) script).zip tables)
      (hlate : tableComment? (lateComments .mysql script)
        (Text.lower (tableName definition.1)) = none)
      (layout : Layout .mysql definition.2) (hhead : '(' ∉ Sql.spell layout.head)
      (hlist : Script.Balanced (Sql.spell layout.list)) (hafter : after.head? ≠ some '\'')
      (hoptions : Script.Announces (literal ++ '\'' :: after) (Sql.spell layout.options))

/-- A column of a MySQL script that is declared with a literal as its comment, and that no statement
of its own comments on. -/
inductive ColumnCommented (literal : List Char) (column : Column) : Prop where
  | intro {script : String} {tables : List Table} {definition : CreateTable × String}
      {table : Table} {declaration : Sql.ColumnDef} {text : String}
      (hparse : parse .mysql script = .ok tables)
      (hdefines : (definition, table) ∈ (definitions (reader .mysql) script).zip tables)
      (hdeclares : (declaration, column) ∈ definition.1.columns.zip table.columns)
      (hlate : columnComment? (lateComments .mysql script) (Text.lower (tableName definition.1))
        (Text.lower declaration.name.text) = none)
      (hdeclared : declaredComment declaration = some text)
      (htext : Denotes literal text)

/-! ### The recorded comments -/

theorem withoutApostrophes_ofList (text : List Char) :
    Text.withoutApostrophes (String.ofList text) = String.ofList (bare text) := by
  simp [Text.withoutApostrophes, Text.without, bare]

theorem toTable_of_mem_zip {script : String} {tables : List Table}
    {definition : CreateTable × String} {table : Table} (hparse : parse .mysql script = .ok tables)
    (hdefines : (definition, table) ∈ (definitions (reader .mysql) script).zip tables) :
    toTable (lateComments .mysql script) definition.1 definition.2 = .ok table := by
  obtain ⟨-, -, htables⟩ := (parseWith_eq_ok_iff (reader .mysql) script tables).mp hparse
  exact (List.forall₂_iff_zip.mp htables).2 hdefines

theorem TableCommented.comment_eq {parts : List LiteralPart} {table : Table}
    (h : TableCommented (spelled parts) table) :
    ∃ text, table.comment = String.ofList (bare text) ∧
      (bare text = bare (denoted parts) ↔ ReadAlike parts) := by
  obtain ⟨hparse, hdefines, hlate, layout, hhead, hlist, hafter, hoptions⟩ := h
  obtain ⟨text, htext, hiff⟩ := Sql.exists_quotedText_spelled parts hafter
  refine ⟨text, ?_, hiff⟩
  rw [comment_of_toTable (toTable_of_mem_zip hparse hdefines), lateComment, hlate, Option.none_or,
    Script.tableComment, (layout.tableOptions_eq_iff hhead).mpr hlist, Option.bind_some,
    Script.optionComment_of_announces hoptions htext, Option.map_some, Option.getD_some,
    withoutApostrophes_ofList]

theorem ColumnCommented.comment_eq {parts : List LiteralPart} {column : Column}
    (h : ColumnCommented (spelled parts) column) :
    column.comment = String.ofList (bare (denoted parts)) := by
  obtain @⟨script, tables, definition, table, declaration, text, hparse, hdefines, hdeclares, hlate,
    hdeclared, htext⟩ := h
  have htable := toTable_of_mem_zip hparse hdefines
  rw [toTable_eq] at htable
  obtain ⟨columns, hcolumns, hmake⟩ := Traversal.bind_eq_ok_iff.mp htable
  obtain ⟨-, rfl⟩ := (Table.make_eq_ok_iff _ _ _ _).mp hmake
  rw [Table.of_columns] at hdeclares
  rw [Traversal.mapM_eq_ok_iff] at hcolumns
  have hbuild := (List.forall₂_iff_zip.mp hcolumns).2 hdeclares
  obtain ⟨-, rfl⟩ := (ColumnDraft.build_eq_ok_iff _ _).mp hbuild
  rw [Sql.denotes_spelled_iff] at htext
  have hcomment := comment_columnDraft declaration none
  rw [hdeclared, htext, Option.none_or, shown, Option.getD_some, withoutApostrophes_ofList]
    at hcomment
  simp only [ColumnDraft.column, lateDraft, hlate, hcomment]

theorem comments_agree_iff {parts : List LiteralPart} {table : Table} {column : Column}
    (htable : TableCommented (spelled parts) table)
    (hcolumn : ColumnCommented (spelled parts) column) :
    table.comment = column.comment ↔ ReadAlike parts := by
  obtain ⟨text, hcomment, hiff⟩ := htable.comment_eq
  rw [hcomment, hcolumn.comment_eq, String.ofList_inj, hiff]

/-! ### A literal in both places -/

def commented (literal : List Char) : String :=
  String.ofList ("CREATE TABLE t (id int COMMENT ".toList ++ '\'' :: (literal ++ '\'' ::
    (") COMMENT=".toList ++ '\'' :: (literal ++ ['\'']))))

namespace Commented

open Clocks (word gap)

def literal (parts : List LiteralPart) : Piece :=
  ⟨some (.singleQuoted (String.ofList (denoted parts))), '\'' :: (spelled parts ++ ['\''])⟩

def head : List Piece := [word "CREATE", gap " ", word "TABLE", gap " ", word "t", gap " "]

def list (parts : List LiteralPart) : List Piece :=
  [word "id", gap " ", word "int", gap " ", word "COMMENT", gap " ", literal parts]

def options (parts : List LiteralPart) : List Piece :=
  [gap " ", word "COMMENT", ⟨some (.symbol "="), ['=']⟩, literal parts]

theorem chars_literal_append (parts : List LiteralPart) (rest : List Char) :
    (literal parts).chars ++ rest = '\'' :: (spelled parts ++ '\'' :: rest) := by
  simp [literal]

theorem reads_literal (parts : List LiteralPart) (previous : Option Sql.Token) {rest : List Piece}
    (hrest : Sql.Lexer.reads .mysql (literal parts).token rest)
    (hnext : (Sql.spell rest).head? ≠ some '\'') :
    Sql.Lexer.reads .mysql previous (literal parts :: rest) := by
  refine Sql.Lexer.reads_cons (by simp [literal]) ?_ hrest
  rw [chars_literal_append, Sql.step_literal parts previous hnext]
  rfl

theorem reads_pieces (parts : List LiteralPart) :
    Sql.Lexer.reads .mysql none (head ++ .opening :: list parts ++ .closing :: options parts) := by
  have hoptions : Sql.Lexer.reads .mysql Piece.closing.token (options parts) := by
    iterate 3 refine Sql.Lexer.reads_cons (by decide) rfl ?_
    exact reads_literal parts _ rfl (by decide)
  have hlist : Sql.Lexer.reads .mysql Piece.opening.token
      (list parts ++ .closing :: options parts) := by
    iterate 6 refine Sql.Lexer.reads_cons (by decide) rfl ?_
    refine reads_literal parts _ (Sql.Lexer.reads_cons (by decide) rfl hoptions) ?_
    simp [Piece.closing]
  iterate 7 refine Sql.Lexer.reads_cons (by decide) rfl ?_
  exact hlist

theorem toList_commented (literal : List Char) : (commented literal).toList =
    "CREATE TABLE t (id int COMMENT ".toList ++ '\'' :: (literal ++ '\'' ::
      (") COMMENT=".toList ++ '\'' :: (literal ++ ['\'']))) := String.toList_ofList

theorem spell_pieces (parts : List LiteralPart) :
    Sql.spell (head ++ .opening :: list parts ++ .closing :: options parts) =
      (commented (spelled parts)).toList := by
  rw [toList_commented]
  simp only [list, options, List.cons_append, List.nil_append, List.append_assoc, Sql.spell_append,
    Sql.spell_cons, Sql.spell_nil, chars_literal_append]
  rfl

theorem exists_sources_of_map_token {lexemes : List Sql.Lexeme} {tokens : List Sql.Token}
    (h : lexemes.map (·.token) = tokens) :
    ∃ source : Nat → List Char,
      lexemes = tokens.zipIdx.map fun token => ⟨token.1, source token.2⟩ := by
  refine ⟨fun i => (lexemes[i]?.map (·.source)).getD [], List.ext_getElem (by simp [← h]) ?_⟩
  intro i hi htokens
  simp [← h, hi]

def definition (parts : List LiteralPart) : CreateTable :=
  ⟨[⟨"t", none⟩], [⟨⟨"id", none⟩, "INT", [.comment (String.ofList (denoted parts))]⟩]⟩

theorem reader_commented (parts : List LiteralPart) :
    reader .mysql (commented (spelled parts)) = .ok [.createTable (definition parts)] := by
  obtain ⟨lexemes, hrun, htokens⟩ :=
    Sql.Lexer.exists_run_of_reads (reads_pieces parts) (Nat.le_refl _) []
  rw [spell_pieces, List.reverse_nil, List.nil_append] at hrun
  obtain ⟨source, rfl⟩ := exists_sources_of_map_token htokens
  rw [reader, Sql.Statement.ofText, Sql.tokens, hrun]
  set_option maxRecDepth 100000 in rfl

theorem closed_commented (parts : List LiteralPart) :
    Script.Closed (commented (spelled parts)).toList := by
  have hlist : "CREATE TABLE t (id int COMMENT ".toList.all Script.isPlain := by decide
  have hoptions : ") COMMENT=".toList.all Script.isPlain := by decide
  rw [toList_commented]
  refine .plain_append hlist (.quoted (by decide) (isRun_spelled parts) ?_)
  exact .plain_append hoptions (.quoted (by decide) (isRun_spelled parts) .nil)

theorem trim_commented (parts : List LiteralPart) :
    Text.trim (commented (spelled parts)) = commented (spelled parts) := by
  have htrim :
      Text.trimList (commented (spelled parts)).toList = (commented (spelled parts)).toList := by
    rw [Text.trimList_eq_self_iff, toList_commented]
    constructor
    · rintro c ⟨⟩
      decide
    · simp only [← List.cons_append, ← List.append_assoc, List.getLast?_concat]
      rintro c ⟨⟩
      decide
  rw [Text.trim, htrim, String.ofList_toList]

theorem statements_commented (parts : List LiteralPart) :
    Script.statements (commented (spelled parts)) = [commented (spelled parts)] := by
  have hscript : Script.ofTexts [⟨commented (spelled parts), closed_commented parts⟩] =
      commented (spelled parts) := by
    simp [Script.ofTexts]
  have hstatements :=
    Script.statements_ofTexts [⟨commented (spelled parts), closed_commented parts⟩]
  have hne : commented (spelled parts) ≠ "" := by
    intro hempty
    have htext := toList_commented (spelled parts)
    rw [hempty] at htext
    cases htext
  rw [hscript] at hstatements
  rw [hstatements, List.map_singleton, trim_commented]
  simp [hne]

theorem parsed_commented (parts : List LiteralPart) :
    parsed (reader .mysql) (commented (spelled parts)) =
      [(.createTable (definition parts), commented (spelled parts))] := by
  rw [parsed, statements_commented, List.flatMap_singleton, parsedIn, reader_commented]
  rfl

theorem definitions_commented (parts : List LiteralPart) :
    definitions (reader .mysql) (commented (spelled parts)) =
      [(definition parts, commented (spelled parts))] := by
  rw [definitions, parsed_commented]
  rfl

theorem lateComments_commented (parts : List LiteralPart) :
    lateComments .mysql (commented (spelled parts)) = [] := by
  rw [lateComments, parsed_commented]
  rfl

theorem named_definition (parts : List LiteralPart) : Named (definition parts) where
  columns := List.forall_mem_singleton.mpr (show Naming.propertyName "id" ≠ "" by decide +kernel)
  table := show Naming.typeName "t" ≠ "" by decide +kernel

theorem exists_parse (parts : List LiteralPart) :
    ∃ table column, parse .mysql (commented (spelled parts)) = .ok [table] ∧
      table.columns = [column] := by
  obtain ⟨table, htable⟩ :=
    (exists_toTable_iff [] (definition parts) (commented (spelled parts))).mpr
      (named_definition parts)
  have hcolumns := (defines_of_toTable_eq_ok htable).columns
  obtain ⟨column, rest, -, hrest, hcolumns⟩ := List.forall₂_cons_left_iff.mp hcolumns
  rw [List.forall₂_nil_left_iff.mp hrest] at hcolumns
  have hblank : ¬Text.isBlankText (commented (spelled parts)) := by
    rw [Text.isBlankText_eq, toList_commented]
    intro hall
    cases (List.all_eq_true.mp hall) 'C' List.mem_cons_self
  refine ⟨table, column, (parseWith_eq_ok_iff _ _ _).mpr ⟨hblank, ?_, ?_⟩, hcolumns⟩
  · rw [definitions_commented]
    exact List.cons_ne_nil _ _
  · rw [definitions_commented, ← lateComments, lateComments_commented]
    exact .cons htable .nil

def layout (parts : List LiteralPart) : Layout .mysql (commented (spelled parts)) where
  head := head
  list := list parts
  options := options parts
  spells := spell_pieces parts
  reads := reads_pieces parts
  nested := .of_forall_ne (by simp [list, word, gap, literal])
  single := by simp [head, list, options, word, gap, literal, Piece.opening, Piece.closing]

theorem balanced_list (parts : List LiteralPart) : Script.Balanced (Sql.spell (list parts)) := by
  have hwords : Script.Balanced "id int COMMENT ".toList := .of_any_isMark (by decide)
  have hquoted : Script.Balanced (literal parts).chars := .run (by decide) (isRun_spelled parts)
  have hspell : Sql.spell (list parts) = "id int COMMENT ".toList ++ (literal parts).chars :=
    congrArg ("id int COMMENT ".toList ++ ·) (List.append_nil _)
  rw [hspell]
  exact hwords.append hquoted

theorem announces_options (parts : List LiteralPart) :
    Script.Announces (spelled parts ++ ['\'']) (Sql.spell (options parts)) := by
  have hspell : Sql.spell (options parts) = " COMMENT=".toList ++ (literal parts).chars :=
    congrArg (" COMMENT=".toList ++ ·) (List.append_nil _)
  have hapart : ∀ c ∈ [' '].getLast?, Text.isWordChar c = false := by
    rintro c ⟨⟩
    decide
  rw [hspell]
  exact @Script.Announces.clause _ [' '] "COMMENT".toList [] ['='] [] (by decide) hapart
    (by decide) (by simp) (.inr rfl)

end Commented

theorem exists_commented (parts : List LiteralPart) :
    ∃ table column, parse .mysql (commented (spelled parts)) = .ok [table] ∧
      table.columns = [column] ∧ TableCommented (spelled parts) table ∧
      ColumnCommented (spelled parts) column := by
  obtain ⟨table, column, hparse, hcolumns⟩ := Commented.exists_parse parts
  have hdefines : ((Commented.definition parts, commented (spelled parts)), table) ∈
      (definitions (reader .mysql) (commented (spelled parts))).zip [table] := by
    rw [Commented.definitions_commented]
    exact List.mem_singleton_self _
  have hlate := Commented.lateComments_commented parts
  refine ⟨table, column, hparse, hcolumns, ?_, ?_⟩
  · refine .intro hparse hdefines (by rw [hlate]; rfl) (Commented.layout parts) ?_
      (Commented.balanced_list parts) ?_ (Commented.announces_options parts)
    · change '(' ∉ Sql.spell Commented.head
      decide
    · simp
  · have hdeclares : (⟨⟨"id", none⟩, "INT", [.comment (String.ofList (denoted parts))]⟩, column) ∈
        (Commented.definition parts).columns.zip table.columns := by
      rw [hcolumns]
      exact List.mem_singleton_self _
    exact .intro hparse hdefines hdeclares (by rw [hlate]; rfl) rfl
      ((Sql.denotes_spelled_iff _ _).mpr rfl)

/-- The comment of a table and the comment of a column that the same literal gives are the same
exactly when the parts of the literal are read alike in both places. Every literal can stand in both
of them. -/
theorem literal_comments_agree_iff {literal : List Char} {text : String}
    (hliteral : Denotes literal text) :
    (∀ table column, TableCommented literal table → ColumnCommented literal column →
      (table.comment = column.comment ↔ ∃ parts, literal = spelled parts ∧ ReadAlike parts)) ∧
    ∃ table column, parse .mysql (commented literal) = .ok [table] ∧ table.columns = [column] ∧
      TableCommented literal table ∧ ColumnCommented literal column := by
  obtain ⟨parts, hparts⟩ := hliteral.exists_parts
  refine ⟨fun table column htable hcolumn => ⟨fun hsame => ⟨parts, hparts, ?_⟩, ?_⟩, ?_⟩
  · rw [hparts] at htable hcolumn
    exact (comments_agree_iff htable hcolumn).mp hsame
  · rintro ⟨others, rfl, halike⟩
    exact (comments_agree_iff htable hcolumn).mpr halike
  · rw [hparts]
    exact exists_commented parts

theorem literal_comments_agree_share :
    Denotes "5''\\%".toList "5'\\%" ∧
    ∃ table column,
      parse .mysql "CREATE TABLE t (id int COMMENT '5''\\%') COMMENT='5''\\%'" = .ok [table] ∧
      table.columns = [column] ∧ TableCommented "5''\\%".toList table ∧
      ColumnCommented "5''\\%".toList column ∧ table.comment = column.comment := by
  have hliteral : Denotes "5''\\%".toList "5'\\%" := ⟨none, [], rfl⟩
  obtain ⟨hiff, table, column, hparse, hcolumns, htable, hcolumn⟩ :=
    literal_comments_agree_iff hliteral
  refine ⟨hliteral, table, column, hparse, hcolumns, htable, hcolumn, ?_⟩
  rw [hiff table column htable hcolumn]
  exact ⟨[.plain '5' (by decide) (by decide), .doubled, .escaped '%'], by decide,
    .kept (by decide)⟩

def possessive : List LiteralPart :=
  [.plain 'i' (by decide) (by decide), .plain 't' (by decide) (by decide), .escaped '\'',
   .plain 's' (by decide) (by decide)]

/-- An escaped apostrophe ends the comment of a table, and its backslash stays. -/
theorem possessive_comments_differ :
    ∃ table column, parse .mysql "CREATE TABLE t (id int COMMENT 'it\\'s') COMMENT='it\\'s'" =
        .ok [table] ∧ table.columns = [column] ∧ TableCommented "it\\'s".toList table ∧
      ColumnCommented "it\\'s".toList column ∧ table.comment = "it\\" ∧
      column.comment = "its" := by
  obtain ⟨table, column, hparse, hcolumns, htable, hcolumn⟩ := exists_commented possessive
  have hcomments : (parse .mysql (commented (spelled possessive))).toOption.map
      (·.map fun table => (table.comment, table.columns.map (·.comment))) =
        some [("it\\", ["its"])] := by
    simp only [parse, parseWith, Text.isBlankText_eq, readScript, Commented.statements_commented]
    decide +kernel
  obtain ⟨seen, hseen, hview⟩ := exists_parse_of_map hcomments
  obtain rfl : table = seen := by simpa [hparse] using hseen
  rw [hcolumns, List.map_singleton, Prod.mk.injEq, List.singleton_inj] at hview
  exact ⟨table, column, hparse, hcolumns, htable, hcolumn, hview⟩

end Schema

end SchemaScaffold
