import SchemaScaffold.Proofs.ClosedTexts
import SchemaScaffold.Proofs.SchemaReading

namespace SchemaScaffold.Schema

open Script (ClosedText ofTexts)
open Sql (Statement CreateTable)

/-! ### Comments by what they are on -/

inductive Target where
  | table (name : String)
  | column (table name : String)
  deriving DecidableEq

def LateComment.target : LateComment → Target
  | onTable table _ => .table table
  | onColumn table column _ => .column table column

def commentsOn (target : Target) (comments : List LateComment) : List LateComment :=
  comments.filter (·.target = target)

theorem findSome?_filter {α β : Type} {p : α → Bool} {f : α → Option β} (as : List α)
    (hf : ∀ a, p a = false → f a = none) : (as.filter p).findSome? f = as.findSome? f := by
  induction as with
  | nil => rfl
  | cons a rest ih =>
      cases ha : p a with
      | true => simp [ha, List.findSome?_cons, ih]
      | false => simp [ha, hf a ha, ih]

theorem tableComment?_eq (comments : List LateComment) (table : String) :
    tableComment? comments table = tableComment? (commentsOn (.table table) comments) table := by
  unfold tableComment? commentsOn
  rw [← List.filter_reverse, findSome?_filter]
  intro comment hother
  cases comment with
  | onTable name text => simpa [LateComment.target] using hother
  | onColumn => rfl

theorem columnComment?_eq (comments : List LateComment) (table column : String) :
    columnComment? comments table column =
      columnComment? (commentsOn (.column table column) comments) table column := by
  unfold columnComment? commentsOn
  rw [← List.filter_reverse, findSome?_filter]
  intro comment hother
  cases comment with
  | onTable => rfl
  | onColumn name key text => simpa [LateComment.target] using hother

/-- The table of a definition depends on the comments on each single thing only. -/
theorem toTable_congr {comments others : List LateComment}
    (h : ∀ target, commentsOn target comments = commentsOn target others) :
    toTable comments = toTable others := by
  funext create text
  have htable : tableComment? comments = tableComment? others := by
    funext table
    rw [tableComment?_eq, h, ← tableComment?_eq]
  have hcolumn : columnComment? comments = columnComment? others := by
    funext table column
    rw [columnComment?_eq, h, ← columnComment?_eq]
  simp only [toTable, htable, hcolumn]

/-! ### What a text adds to a script -/

def statementsIn (read : StatementReader) (text : String) : List (Statement × String) :=
  if (Text.trim text).isEmpty then [] else parsedIn read (Text.trim text)

/-- Whether a text adds neither a definition nor a comment: it is blank, it is rejected, or it holds
other statements only. -/
def isIdle (read : StatementReader) (text : String) : Bool :=
  (statementsIn read text).all fun statement =>
    match statement.1 with
    | .other => true
    | .createTable _ | .comment .. => false

def isComment (read : StatementReader) (text : String) : Bool :=
  !(statementsIn read text).isEmpty && (statementsIn read text).all fun statement =>
    match statement.1 with
    | .comment _ _ (some _) => true
    | .createTable _ | .comment _ _ none | .other => false

def commentsIn (read : StatementReader) (text : String) : List LateComment :=
  (statementsIn read text).flatMap commentOf

def isAbout (read : StatementReader) (target : Target) (text : String) : Bool :=
  (commentsIn read text).any (·.target = target)

/-- The same texts with some of the comments at other places. All other texts keep their order, and
so do the comments on one and the same thing. -/
structure Moved (read : StatementReader) (texts others : List ClosedText) : Prop where
  perm : texts.Perm others
  rest : texts.filter (fun text => !isComment read text.text) =
    others.filter (fun text => !isComment read text.text)
  comments : ∀ target, texts.filter (fun text => isAbout read target text.text) =
    others.filter (fun text => isAbout read target text.text)

section

variable {read : StatementReader} {texts others : List ClosedText}

theorem parsed_ofTexts (read : StatementReader) (texts : List ClosedText) :
    parsed read (ofTexts texts) = texts.flatMap fun text => statementsIn read text.text := by
  rw [parsed, Script.statements_ofTexts]
  induction texts with
  | nil => rfl
  | cons text rest ih =>
      rw [List.map_cons, List.filter_cons, List.flatMap_cons, ← ih, statementsIn]
      cases (Text.trim text.text).isEmpty <;> simp

theorem flatMap_filter_of_eq_nil {α β : Type} {p : α → Bool} {f : α → List β} (as : List α)
    (hf : ∀ a, p a = false → f a = []) : (as.filter p).flatMap f = as.flatMap f := by
  induction as with
  | nil => rfl
  | cons a rest ih =>
      cases ha : p a with
      | true => simp [ha, ih]
      | false => simp [ha, hf a ha, ih]

theorem not_isBlankText_of_definitions {script : String} (h : definitions read script ≠ []) :
    ¬Text.isBlankText script := by
  intro hblank
  apply h
  rw [definitions, parsed, Script.statements_of_isBlankText hblank]
  rfl

/-- Two scripts with the same definitions and the same comments on each thing have the same
tables. -/
theorem parseWith_eq_ok_of_eq {script other : String}
    (hdefinitions : definitions read script = definitions read other)
    (hcomments : ∀ target, commentsOn target ((parsed read script).flatMap commentOf) =
      commentsOn target ((parsed read other).flatMap commentOf)) {tables : List Table}
    (h : parseWith read script = .ok tables) : parseWith read other = .ok tables := by
  rw [parseWith_eq_ok_iff] at h ⊢
  rw [hdefinitions, toTable_congr hcomments] at h
  exact ⟨not_isBlankText_of_definitions h.2.1, h.2⟩

theorem definitions_ofTexts (read : StatementReader) (texts : List ClosedText) :
    definitions read (ofTexts texts) =
      texts.flatMap fun text => (statementsIn read text.text).filterMap definition? := by
  rw [definitions, parsed_ofTexts, List.filterMap_flatMap]

theorem commentsOn_ofTexts (read : StatementReader) (target : Target) (texts : List ClosedText) :
    commentsOn target ((parsed read (ofTexts texts)).flatMap commentOf) =
      texts.flatMap fun text => commentsOn target (commentsIn read text.text) := by
  rw [parsed_ofTexts, List.flatMap_assoc, commentsOn, List.filter_flatMap]
  rfl

theorem definitions_eq_nil_of_isIdle {text : String} (h : isIdle read text) :
    (statementsIn read text).filterMap definition? = [] := by
  rw [isIdle, List.all_eq_true] at h
  rw [List.filterMap_eq_nil_iff]
  rintro ⟨statement, source⟩ hmem
  have hother := h _ hmem
  cases statement with
  | other => rfl
  | createTable | comment => cases hother

theorem commentsIn_eq_nil_of_isIdle {text : String} (h : isIdle read text) :
    commentsIn read text = [] := by
  rw [isIdle, List.all_eq_true] at h
  rw [commentsIn, List.flatMap_eq_nil_iff]
  rintro ⟨statement, source⟩ hmem
  have hother := h _ hmem
  cases statement with
  | other => rfl
  | createTable | comment => cases hother

theorem definitions_eq_nil_of_isComment {text : String} (h : isComment read text) :
    (statementsIn read text).filterMap definition? = [] := by
  rw [isComment, Bool.and_eq_true, List.all_eq_true] at h
  rw [List.filterMap_eq_nil_iff]
  rintro ⟨statement, source⟩ hmem
  have hcomment := h.2 _ hmem
  cases statement with
  | comment => rfl
  | createTable | other => cases hcomment

theorem commentsOn_eq_nil_of_not_isAbout {target : Target} {text : String}
    (h : isAbout read target text = false) : commentsOn target (commentsIn read text) = [] := by
  rw [isAbout, List.any_eq_false] at h
  rw [commentsOn, List.filter_eq_nil_iff]
  exact h

theorem parseWith_insert_idle {before after : List ClosedText} {idle : ClosedText}
    (hidle : isIdle read idle.text) {tables : List Table} :
    parseWith read (ofTexts (before ++ idle :: after)) = .ok tables ↔
      parseWith read (ofTexts (before ++ after)) = .ok tables := by
  have hdefinitions : definitions read (ofTexts (before ++ idle :: after)) =
      definitions read (ofTexts (before ++ after)) := by
    simp only [definitions_ofTexts, List.flatMap_append, List.flatMap_cons,
      definitions_eq_nil_of_isIdle hidle, List.nil_append]
  have hcomments : ∀ target,
      commentsOn target ((parsed read (ofTexts (before ++ idle :: after))).flatMap commentOf) =
        commentsOn target ((parsed read (ofTexts (before ++ after))).flatMap commentOf) := by
    intro target
    have hnone : commentsOn target (commentsIn read idle.text) = [] := by
      rw [commentsIn_eq_nil_of_isIdle hidle]
      rfl
    simp only [commentsOn_ofTexts, List.flatMap_append, List.flatMap_cons, hnone, List.nil_append]
  exact ⟨parseWith_eq_ok_of_eq hdefinitions hcomments,
    parseWith_eq_ok_of_eq hdefinitions.symm fun target => (hcomments target).symm⟩

theorem Moved.symm (h : Moved read texts others) : Moved read others texts where
  perm := h.perm.symm
  rest := h.rest.symm
  comments target := (h.comments target).symm

theorem Moved.definitions_eq (h : Moved read texts others) :
    definitions read (ofTexts texts) = definitions read (ofTexts others) := by
  have hkept : ∀ script : List ClosedText, definitions read (ofTexts script) =
      (script.filter fun text => !isComment read text.text).flatMap fun text =>
        (statementsIn read text.text).filterMap definition? := by
    intro script
    rw [definitions_ofTexts, flatMap_filter_of_eq_nil]
    intro text hcomment
    apply definitions_eq_nil_of_isComment
    simpa using hcomment
  rw [hkept, hkept, h.rest]

theorem Moved.commentsOn_eq (h : Moved read texts others) (target : Target) :
    commentsOn target ((parsed read (ofTexts texts)).flatMap commentOf) =
      commentsOn target ((parsed read (ofTexts others)).flatMap commentOf) := by
  have hkept : ∀ script : List ClosedText,
      commentsOn target ((parsed read (ofTexts script)).flatMap commentOf) =
        (script.filter fun text => isAbout read target text.text).flatMap fun text =>
          commentsOn target (commentsIn read text.text) := by
    intro script
    rw [commentsOn_ofTexts, flatMap_filter_of_eq_nil]
    intro text habout
    exact commentsOn_eq_nil_of_not_isAbout habout
  rw [hkept, hkept, h.comments]

theorem Moved.parseWith_eq_ok (h : Moved read texts others) {tables : List Table}
    (hok : parseWith read (ofTexts texts) = .ok tables) :
    parseWith read (ofTexts others) = .ok tables :=
  parseWith_eq_ok_of_eq h.definitions_eq h.commentsOn_eq hok

end

/-- The tables of a script of closed texts stay the same when texts that are rejected or say nothing
about tables are put in or left out anywhere, and when comments are moved to other places, before or
behind the definitions that they are about, so long as the comments on one table or column keep
their order. -/
theorem tables_independent_of_order (read : StatementReader) (tables : List Table) :
    (∀ (before after : List ClosedText) (idle : ClosedText), isIdle read idle.text →
      (parseWith read (ofTexts (before ++ idle :: after)) = .ok tables ↔
        parseWith read (ofTexts (before ++ after)) = .ok tables)) ∧
    ∀ texts others : List ClosedText, Moved read texts others →
      (parseWith read (ofTexts texts) = .ok tables ↔
        parseWith read (ofTexts others) = .ok tables) := by
  constructor
  · intro before after idle hidle
    exact parseWith_insert_idle hidle
  · intro texts others hmoved
    exact ⟨hmoved.parseWith_eq_ok, hmoved.symm.parseWith_eq_ok⟩

namespace Shuffled

theorem closed_commentOnUsers {run : List Char} (h : run.all fun c => c != '\'' && c != '\\') :
    Script.Closed ("COMMENT ON TABLE users IS ".toList ++ ('\'' :: run ++ ['\''])) :=
  Script.Closed.plain_append (by decide) (.quoted rfl (Script.IsRun.of_all h) .nil)

def definition : ClosedText where
  text := "CREATE TABLE users (id bigint)"
  closed := by
    have hclosed : Script.Closed ("CREATE TABLE users (id bigint)".toList ++ []) :=
      Script.Closed.plain_append (by decide) .nil
    exact hclosed

def garbage : ClosedText where
  text := "garbage -- it's;\n"
  closed := by
    have hclosed : Script.Closed
        ("garbage ".toList ++ ('-' :: '-' :: " it's;".toList ++ '\n' :: [])) :=
      Script.Closed.plain_append (by decide) (.dashes (by decide) .nil)
    exact hclosed

def comment : ClosedText where
  text := "COMMENT ON TABLE users IS 'a;b'"
  closed := by
    have hrun : "a;b".toList.all fun c => c != '\'' && c != '\\' := by decide
    exact closed_commentOnUsers hrun

def finalComment : ClosedText where
  text := "COMMENT ON TABLE users IS 'c'"
  closed := by
    have hrun : "c".toList.all fun c => c != '\'' && c != '\\' := by decide
    exact closed_commentOnUsers hrun

theorem moved : Moved (reader .postgresql) [definition, comment, finalComment]
    [comment, finalComment, definition] where
  perm := (List.perm_append_singleton definition [comment, finalComment]).symm
  rest := by
    have hdefinition : isComment (reader .postgresql) definition.text = false := by decide +kernel
    have hcomment : isComment (reader .postgresql) comment.text = true := by decide +kernel
    have hfinal : isComment (reader .postgresql) finalComment.text = true := by decide +kernel
    simp [hdefinition, hcomment, hfinal]
  comments target := by
    have hnone : commentsIn (reader .postgresql) definition.text = [] := by decide +kernel
    have habout : isAbout (reader .postgresql) target definition.text = false := by
      rw [isAbout, hnone]
      rfl
    simp [List.filter_cons, habout]

end Shuffled

/-- A comment stays with its table from in front of the definition, and the later of two comments
counts at either place. The rejected text has an apostrophe and a semicolon in its comment. -/
theorem tables_independent_of_order_users :
    ∃ tables, tables.map (fun table => (table.name, table.comment)) = [("users", "c")] ∧
      parseWith (reader .postgresql)
        (ofTexts [Shuffled.definition, Shuffled.comment, Shuffled.finalComment]) = .ok tables ∧
      parseWith (reader .postgresql)
        (ofTexts [Shuffled.comment, Shuffled.garbage, Shuffled.finalComment,
          Shuffled.definition]) = .ok tables := by
  have hparse : (parseWith (reader .postgresql)
      (ofTexts [Shuffled.definition, Shuffled.comment, Shuffled.finalComment])).toOption.map
        (·.map fun table => (table.name, table.comment)) = some [("users", "c")] := by
    simp only [parseWith, Text.isBlankText_eq, readScript, Script.statements_ofTexts]
    decide +kernel
  obtain ⟨tables, htables, hcomments⟩ := Option.map_eq_some_iff.mp hparse
  have hok := Traversal.toOption_eq_some_iff.mp htables
  have hmoved := ((tables_independent_of_order (reader .postgresql) tables).2 _ _
    Shuffled.moved).mp hok
  have hidle : isIdle (reader .postgresql) Shuffled.garbage.text := by decide +kernel
  have hinserted := ((tables_independent_of_order (reader .postgresql) tables).1 [Shuffled.comment]
    [Shuffled.finalComment, Shuffled.definition] Shuffled.garbage hidle).mpr hmoved
  exact ⟨tables, hcomments, hok, hinserted⟩

end SchemaScaffold.Schema
