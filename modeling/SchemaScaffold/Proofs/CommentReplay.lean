import SchemaScaffold.Proofs.ScriptOrder

/-!
# Replaying comments

A script may comment on a table or a column in a statement of its own, and take a comment back. What
counts is the last text for a table of this name, whatever its schema, and nothing is taken back. So
the comments of a table are those that a replay of the statements gives as long as the last one that
says anything about the table or takes its comment back gives a text, and is on this very table.
-/

namespace SchemaScaffold.Schema

open Sql (Statement CreateTable ColumnDef CommentTarget)

/-! ### Remarks -/

/-- A statement that comments on something. Without a text it takes a comment back. -/
structure Remark where
  target : CommentTarget
  name : Sql.Name
  text : Option String

def remark? : Statement × String → Option Remark
  | (.comment target name text, _) => some { target, name, text }
  | _ => none

def remarks (read : StatementReader) (script : String) : List Remark :=
  (parsed read script).filterMap remark?

def parts (name : Sql.Name) : List String := name.reverse.map fun part => Text.lower part.text

structure Place where
  table : List String
  column : Option String := none
  deriving DecidableEq

def Remark.place? (remark : Remark) : Option Place :=
  match remark.target, parts remark.name with
  | .table, table :: schemas => some { table := table :: schemas }
  | .column, column :: table :: schemas => some { table := table :: schemas, column }
  | _, _ => none

namespace Place

def ofTable (create : CreateTable) : Place where
  table := parts create.name

def ofColumn (create : CreateTable) (declaration : ColumnDef) : Place where
  table := parts create.name
  column := some (Text.lower declaration.name.text)

/-- Whether two places have the same name in tables of the same name. -/
def IsLike (place other : Place) : Prop :=
  place.table.head? = other.table.head? ∧ place.column = other.column

/-- Whether two places are the same. The schema of a table may be left out. -/
def IsSame (place other : Place) : Prop :=
  place.IsLike other ∧
    ∀ first ∈ place.table.tail.head?, ∀ second ∈ other.table.tail.head?, first = second

instance (place other : Place) : Decidable (place.IsLike other) :=
  inferInstanceAs (Decidable (_ ∧ _))

instance (place other : Place) : Decidable (place.IsSame other) :=
  inferInstanceAs (Decidable (_ ∧ _))

end Place

namespace Remark

variable (remark : Remark) (place : Place)

def isLike : Bool := remark.place?.any fun other => decide (other.IsLike place)

def isOn : Bool := remark.place?.any fun other => decide (other.IsSame place)

theorem isLike_of_isOn {remark : Remark} {place : Place} (h : remark.isOn place) :
    remark.isLike place := by
  rw [isOn, Option.any_eq_true] at h
  obtain ⟨other, hother, hsame⟩ := h
  rw [isLike, Option.any_eq_true]
  exact ⟨other, hother, by simpa using (of_decide_eq_true hsame).1⟩

end Remark

/-! ### Replays -/

section

variable (place : Place) (own : Option String) (remarks : List Remark)

/-- The comment that is left when the remarks on a place are made one after another. -/
def replay : Option String :=
  (remarks.filter (·.isOn place)).foldl (fun _ remark => remark.text) own

def lastText : Option String :=
  ((remarks.filter (·.isLike place)).filterMap (·.text)).getLast?.or own

/-- The last remark that gives a text for a place of this name or takes back the comment on this very
place. -/
def deciding : Option Remark :=
  (remarks.filter fun remark =>
    remark.isLike place && (remark.isOn place || remark.text.isSome)).getLast?

end

section

variable {place : Place} {own : Option String} {remarks : List Remark}

/-! What one more remark does. -/

theorem replay_concat (remark : Remark) : replay place own (remarks ++ [remark]) =
    if remark.isOn place then remark.text else replay place own remarks := by
  rw [replay, List.filter_append, List.foldl_append]
  cases h : remark.isOn place <;> simp [h, replay]

theorem lastText_concat (remark : Remark) : lastText place own (remarks ++ [remark]) =
    if remark.isLike place then remark.text.or (lastText place own remarks)
    else lastText place own remarks := by
  rw [lastText, List.filter_append, List.filterMap_append, List.getLast?_append, Option.or_assoc]
  cases h : remark.isLike place <;> cases htext : remark.text <;> simp [h, htext, lastText]

theorem deciding_concat (remark : Remark) : deciding place (remarks ++ [remark]) =
    if remark.isLike place && (remark.isOn place || remark.text.isSome) then some remark
    else deciding place remarks := by
  rw [deciding, List.filter_append, List.getLast?_append]
  cases h : remark.isLike place && (remark.isOn place || remark.text.isSome) <;>
    simp [h, deciding]

/-- The last text comes to what the replay gives exactly when the remark that decides is on this very
place, or says what the remarks there say, and does not take back a text that stays. -/
theorem lastText_eq_replay_iff {α : Type} (f : Option String → α) :
    f (lastText place own remarks) = f (replay place own remarks) ↔
      ∀ remark, deciding place remarks = some remark →
        (remark.isOn place ∨ f (replay place own remarks) = f remark.text) ∧
          (remark.text = none → f (lastText place own remarks) = f none) := by
  induction remarks using List.reverseRecOn with
  | nil => simp [lastText, replay, deciding]
  | append_singleton before remark ih =>
      rw [replay_concat, lastText_concat, deciding_concat]
      cases hon : remark.isOn place with
      | true =>
          have hlike := Remark.isLike_of_isOn hon
          cases htext : remark.text <;> simp [hlike, hon, htext]
      | false =>
          cases htext : remark.text with
          | none => simpa using ih
          | some text =>
              cases hlike : remark.isLike place with
              | true => simp [hon, htext, eq_comm (a := f (some text))]
              | false => simpa using ih

end

/-! ### Comments that are applied -/

def shown (comment : Option String) : String := Text.withoutApostrophes (comment.getD "")

def LateComment.text : LateComment → String
  | onTable _ text => text
  | onColumn _ _ text => text

theorem tableComment?_eq_getLast? (comments : List LateComment) (table : String) :
    tableComment? comments table =
      ((commentsOn (.table table) comments).map (·.text)).getLast? := by
  rw [commentsOn, ← List.filterMap_eq_map, List.filterMap_filter, List.getLast?_filterMap]
  unfold tableComment?
  congr 1
  funext comment
  cases comment <;> simp [LateComment.target, LateComment.text]

theorem columnComment?_eq_getLast? (comments : List LateComment) (table column : String) :
    columnComment? comments table column =
      ((commentsOn (.column table column) comments).map (·.text)).getLast? := by
  rw [commentsOn, ← List.filterMap_eq_map, List.filterMap_filter, List.getLast?_filterMap]
  unfold columnComment?
  congr 1
  funext comment
  cases comment <;> simp [LateComment.target, LateComment.text]

def Place.target? (place : Place) : Option Target :=
  place.table.head?.map fun table =>
    match place.column with
    | none => .table table
    | some column => .column table column

theorem Place.isLike_iff {place : Place} {target : Target} (htarget : place.target? = some target)
    (other : Place) : other.IsLike place ↔ other.target? = some target := by
  obtain ⟨_ | ⟨table, schemas⟩, column⟩ := place
  · cases htarget
  obtain rfl := Option.some.inj htarget
  obtain ⟨_ | ⟨table', schemas'⟩, column'⟩ := other
  · simp [IsLike, target?]
  · cases column <;> cases column' <;> simp [IsLike, target?]

theorem lateComment?_eq (kind : CommentTarget) (name : Sql.Name) (text : String)
    (taken : Option String) :
    (lateComment? kind name text).map (fun comment => (comment.target, comment.text)) =
      ((Remark.place? ⟨kind, name, taken⟩).bind Place.target?).map (·, text) := by
  unfold lateComment? Remark.place? parts
  generalize name.reverse.map (fun part => Text.lower part.text) = parts
  cases kind with
  | other => rfl
  | table => cases parts <;> rfl
  | column => rcases parts with _ | ⟨key, _ | ⟨table, schemas⟩⟩ <;> rfl

theorem texts_commentOf {place : Place} {target : Target} (htarget : place.target? = some target)
    (statement : Statement × String) :
    (commentsOn target (commentOf statement)).map (·.text) =
      ((remark? statement).toList.filter (·.isLike place)).filterMap (·.text) := by
  obtain ⟨statement, source⟩ := statement
  cases statement with
  | createTable | other => rfl
  | comment kind name taken =>
      cases taken with
      | none => cases h : Remark.isLike ⟨kind, name, none⟩ place <;>
          simp [remark?, commentOf, commentsOn, h]
      | some text =>
          have hcomment := lateComment?_eq kind name text (some text)
          have hlike : Remark.isLike ⟨kind, name, some text⟩ place =
              ((Remark.place? ⟨kind, name, some text⟩).bind Place.target? == some target) := by
            rw [Remark.isLike]
            cases Remark.place? ⟨kind, name, some text⟩ with
            | none => rfl
            | some other => simp [Place.isLike_iff htarget, Bool.beq_eq_decide_eq]
          generalize (Remark.place? ⟨kind, name, some text⟩).bind Place.target? = found
            at hcomment hlike
          simp only [remark?, commentOf, commentsOn, Option.toList_some]
          cases found with
          | none =>
              have hnone : lateComment? kind name text = none := by simpa using hcomment
              simp [hnone, hlike]
          | some other =>
              obtain ⟨comment, hsome, hpair⟩ := Option.map_eq_some_iff.mp hcomment
              obtain ⟨rfl, rfl⟩ := Prod.mk.inj hpair
              by_cases h : comment.target = target <;> simp [hsome, hlike, h]

theorem texts_commentsOn {place : Place} {target : Target} (htarget : place.target? = some target)
    (statements : List (Statement × String)) :
    (commentsOn target (statements.flatMap commentOf)).map (·.text) =
      ((statements.filterMap remark?).filter (·.isLike place)).filterMap (·.text) := by
  rw [commentsOn, List.filter_flatMap, List.map_flatMap,
    List.filterMap_eq_flatMap_toList remark?,
    List.filter_flatMap, List.filterMap_flatMap]
  exact List.flatMap_congr fun statement _ => texts_commentOf htarget statement

def declaredComment (declaration : ColumnDef) : Option String :=
  (declaration.options.filterMap fun
    | .comment text => some text
    | _ => none).getLast?

theorem comment_columnDraft (declaration : ColumnDef) (late : Option String) :
    (columnDraft declaration late).comment = shown (late.or (declaredComment declaration)) := by
  have hoptions : ∀ (options : List Sql.ColumnOption) (draft : ColumnDraft), draft.comment = "" →
      (options.foldl applyOption draft).comment = shown (options.filterMap fun
        | .comment text => some text
        | _ => none).getLast? := by
    intro options draft hempty
    induction options using List.reverseRecOn with
    | nil => exact hempty
    | append_singleton before option ih =>
        rw [List.foldl_append, List.filterMap_append, List.getLast?_append]
        cases option with
        | comment text => rfl
        | notNull | null | default | primaryKey | other => exact ih
  unfold columnDraft
  rcases splitType declaration.dataType.toList with ⟨base, length⟩
  cases late with
  | some text => rfl
  | none => cases length <;> exact hoptions _ _ rfl

/-- A comment is the last text for places of one name, and what the replay gives under the condition
that is stated. -/
structure Follows (remarks : List Remark) (place : Place) (own : Option String)
    (comment : String) : Prop where
  last : comment = shown (lastText place own remarks)
  replayed_iff : comment = shown (replay place own remarks) ↔
    ∀ remark, deciding place remarks = some remark →
      (remark.isOn place ∨ shown (replay place own remarks) = shown remark.text) ∧
        (remark.text = none → comment = "")

theorem follows_shown (remarks : List Remark) (place : Place) (own : Option String) :
    Follows remarks place own (shown (lastText place own remarks)) :=
  ⟨rfl, lastText_eq_replay_iff shown⟩

section

variable {create : CreateTable} (hname : create.name ≠ [])

include hname

theorem exists_parts_eq : ∃ schemas, parts create.name = Text.lower (tableName create) :: schemas := by
  obtain ⟨schemas, last, hlast⟩ := List.eq_nil_or_concat create.name |>.resolve_left hname
  refine ⟨schemas.reverse.map fun part => Text.lower part.text, ?_⟩
  rw [parts, tableName, hlast]
  simp

theorem target?_ofTable :
    (Place.ofTable create).target? = some (.table (Text.lower (tableName create))) := by
  obtain ⟨schemas, hparts⟩ := exists_parts_eq hname
  rw [Place.ofTable, hparts]
  rfl

theorem target?_ofColumn (declaration : ColumnDef) :
    (Place.ofColumn create declaration).target? =
      some (.column (Text.lower (tableName create)) (Text.lower declaration.name.text)) := by
  obtain ⟨schemas, hparts⟩ := exists_parts_eq hname
  rw [Place.ofColumn, hparts]
  rfl

end

/-- The table of a definition and its columns have the comments that the remarks of the script give
them. -/
theorem follows_of_toTable_eq_ok {read : StatementReader} {script : String} {create : CreateTable}
    {text : String} {table : Table}
    (h : toTable ((parsed read script).flatMap commentOf) create text = .ok table) :
    Follows (remarks read script) (.ofTable create) (Script.tableComment text) table.comment ∧
      List.Forall₂ (fun declaration column =>
        Follows (remarks read script) (.ofColumn create declaration) (declaredComment declaration)
          column.comment) create.columns table.columns := by
  rw [toTable_eq] at h
  obtain ⟨columns, hcolumns, htable⟩ := Traversal.bind_eq_ok_iff.mp h
  obtain ⟨hclass, rfl⟩ := (Table.make_eq_ok_iff _ _ _ _).mp htable
  have hname : create.name ≠ [] := by
    intro hempty
    rw [tableName, hempty] at hclass
    exact hclass (by decide)
  constructor
  · have hlate : lateComment ((parsed read script).flatMap commentOf) create text =
        lastText (.ofTable create) (Script.tableComment text) (remarks read script) := by
      rw [lateComment, tableComment?_eq_getLast?, texts_commentsOn (target?_ofTable hname)]
      rfl
    rw [hlate]
    exact follows_shown _ _ _
  · rw [Table.of_columns]
    refine ((Traversal.mapM_eq_ok_iff _ _ _).mp hcolumns).imp ?_
    intro declaration column hbuild
    obtain ⟨-, rfl⟩ := (ColumnDraft.build_eq_ok_iff _ _).mp hbuild
    have hcomment : (lateDraft ((parsed read script).flatMap commentOf) create
        declaration).column.comment = shown (lastText (.ofColumn create declaration)
          (declaredComment declaration) (remarks read script)) := by
      rw [lateDraft, columnComment?_eq_getLast?,
        texts_commentsOn (target?_ofColumn hname declaration)]
      exact comment_columnDraft declaration _
    rw [hcomment]
    exact follows_shown _ _ _

/-- Every table of a script and each of its columns has the comment that the last text for its name
gives, or else its own. This is what replaying the remarks of the script gives exactly when the
remark that decides is on this very table, or says the same, and takes nothing back that stays. -/
theorem comments_replayed_iff {read : StatementReader} {script : String} {tables : List Table}
    (h : parseWith read script = .ok tables) :
    List.Forall₂ (fun definition table =>
      Follows (remarks read script) (.ofTable definition.1) (Script.tableComment definition.2)
          table.comment ∧
        List.Forall₂ (fun declaration column =>
          Follows (remarks read script) (.ofColumn definition.1 declaration)
            (declaredComment declaration) column.comment) definition.1.columns table.columns)
      (definitions read script) tables := by
  obtain ⟨-, -, htables⟩ := (parseWith_eq_ok_iff read script tables).mp h
  exact htables.imp fun _ _ => follows_of_toTable_eq_ok

/-- Whether the remark that decides is on this very place and gives a text. -/
def isSettled (place : Place) (remarks : List Remark) : Bool :=
  (deciding place remarks).all fun remark => remark.isOn place && remark.text.isSome

theorem Follows.replayed {remarks : List Remark} {place : Place} {own : Option String}
    {comment : String} (h : Follows remarks place own comment)
    (hsettled : isSettled place remarks) : comment = shown (replay place own remarks) := by
  rw [h.replayed_iff]
  intro remark hdeciding
  rw [isSettled, hdeciding, Option.all_some, Bool.and_eq_true, Option.isSome_iff_exists] at hsettled
  obtain ⟨hon, text, htext⟩ := hsettled
  refine ⟨.inl hon, ?_⟩
  rw [htext]
  nofun

def tableComments (read : StatementReader) (script : String) : Option (List String) :=
  (parseWith read script).toOption.map (·.map (·.comment))

def replayedComments (read : StatementReader) (script : String) : List String :=
  (definitions read script).map fun definition =>
    shown (replay (.ofTable definition.1) (Script.tableComment definition.2) (remarks read script))

/-- A comment on a table of another schema and one that is taken back do no harm in front of a
comment on this table. -/
theorem comments_replayed_users :
    let script := "CREATE TABLE a.users (id int); COMMENT ON TABLE b.users IS 'x';
      COMMENT ON TABLE Users IS NULL; COMMENT ON TABLE users IS 'y'"
    ∃ tables, parseWith (reader .postgresql) script = .ok tables ∧
      tables.map (·.comment) = ["y"] ∧
      tables.map (·.comment) = replayedComments (reader .postgresql) script := by
  intro script
  have hparse : tableComments (reader .postgresql) script = some ["y"] ∧
      ∀ definition ∈ definitions (reader .postgresql) script,
        isSettled (.ofTable definition.1) (remarks (reader .postgresql) script) := by
    simp only [tableComments, parseWith, Text.isBlankText_eq]
    decide +kernel
  obtain ⟨hcomments, hsettled⟩ := hparse
  obtain ⟨tables, htables, hcomments⟩ := Option.map_eq_some_iff.mp hcomments
  have hok := Traversal.toOption_eq_some_iff.mp htables
  refine ⟨tables, hok, hcomments, ?_⟩
  have hfollows := List.forall₂_and_left _ _ |>.mpr ⟨hsettled, comments_replayed_iff hok⟩
  rw [replayedComments, ← List.forall₂_eq_eq_eq, List.forall₂_map_left_iff,
    List.forall₂_map_right_iff]
  exact hfollows.flip.imp fun _ _ h => h.2.1.replayed h.1

/-- A comment on a table of another schema lands on this table, and a comment that is taken back
stays. -/
theorem comments_not_replayed :
    let script := "CREATE TABLE a.t (c int); COMMENT ON TABLE b.t IS 'x'"
    let other := "CREATE TABLE t (c int); COMMENT ON TABLE t IS 'x'; COMMENT ON TABLE t IS NULL"
    tableComments (reader .postgresql) script = some ["x"] ∧
      replayedComments (reader .postgresql) script = [""] ∧
      tableComments (reader .postgresql) other = some ["x"] ∧
      replayedComments (reader .postgresql) other = [""] := by
  simp only [tableComments, parseWith, Text.isBlankText_eq]
  decide +kernel

end SchemaScaffold.Schema
