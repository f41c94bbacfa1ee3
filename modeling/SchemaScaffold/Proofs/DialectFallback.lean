import SchemaScaffold.Project
import SchemaScaffold.Proofs.SchemaReading

namespace SchemaScaffold

namespace Dialect

theorem trim_of_isBlankText {text : String} (hblank : Text.isBlankText text) :
    Text.trim text = "" := by
  rw [Text.isBlankText_eq, List.all_eq_true] at hblank
  have hstart : Text.trimStart text.toList = [] := List.dropWhile_eq_nil_iff.mpr hblank
  rw [Text.trim, Text.trimList, hstart]
  rfl

theorem requestedName_of_isBlankText {request : String} (hblank : Text.isBlankText request) :
    requestedName (some request) = requestedName none := by
  rw [requestedName, Option.map_some, Option.getD_some, trim_of_isBlankText hblank]
  rfl

theorem ofRequest?_none : ofRequest? none = some mysql := by decide

/-- The dialect that scripts for a database are in. There is none for Oracle. -/
def ofDatabase? : Database → Option Dialect
  | .mysql => some mysql
  | .postgresql => some postgresql
  | .oracle => none

theorem ofRequest?_database (database : Database) :
    ofRequest? (some database.label) = ofDatabase? database := by
  cases database <;> decide

theorem requestedName_database (database : Database) :
    requestedName (some database.label) = database.label := by
  cases database <;> decide

end Dialect

namespace Schema

theorem selectDialect_of_isBlankText {request : String} (hblank : Text.isBlankText request) :
    selectDialect (some request) = .ok .mysql := by
  rw [selectDialect, Dialect.ofRequest?, Dialect.requestedName_of_isBlankText hblank,
    ← Dialect.ofRequest?, Dialect.ofRequest?_none]

theorem selectDialect_database (database : Database) :
    selectDialect (some database.label) =
      match Dialect.ofDatabase? database with
      | some dialect => .ok dialect
      | none => .error (.unsupportedDialect database.label) := by
  cases h : Dialect.ofDatabase? database <;>
    simp [selectDialect, Dialect.ofRequest?_database, Dialect.requestedName_database, h]

theorem parse_ne_unsupportedDialect (dialect : Dialect) (script name : String) :
    parse dialect script ≠ .error (.unsupportedDialect name) := by
  intro h
  cases (parseWith_eq_error_iff (reader dialect) script _).mp h

end Schema

namespace Project

theorem parseTables_of_isBlankText (project : Project) (script : String) {request : String}
    (hblank : Text.isBlankText request) :
    project.parseTables script (some request) =
      (Validation.sql script >>= fun _ => Schema.parse .mysql script) := by
  rw [parseTables, Option.getD_some, Schema.selectDialect_of_isBlankText hblank]
  rfl

theorem parseTables_none (project : Project) (script : String) :
    project.parseTables script none = (Validation.sql script >>= fun _ =>
      match Dialect.ofDatabase? project.stack.database with
      | some dialect => Schema.parse dialect script
      | none => .error (.unsupportedDialect project.stack.database.label)) := by
  rw [parseTables, Option.getD_none, Schema.selectDialect_database]
  cases Dialect.ofDatabase? project.stack.database <;> rfl

/-- A blank request reads every script as one of MySQL. So it is the same as none exactly where that
makes no difference: where the script is refused before it is read, where the database is MySQL, and
where it is PostgreSQL and the script says the same in both. -/
theorem blank_dialect_same_as_none_iff (project : Project) (script : String) {request : String}
    (hblank : Text.isBlankText request) :
    project.parseTables script (some request) =
        { project with stack.database := .mysql }.parseTables script none ∧
      (project.parseTables script (some request) = project.parseTables script none ↔
        (∃ error, Validation.sql script = .error error) ∨
        project.stack.database = .mysql ∨
        (project.stack.database = .postgresql ∧
          Schema.parse .mysql script = Schema.parse .postgresql script)) := by
  rw [parseTables_of_isBlankText project script hblank, parseTables_none, parseTables_none]
  refine ⟨rfl, ?_⟩
  cases Validation.sql script with
  | error error => simp [Traversal.error_bind]
  | ok =>
      simp only [Traversal.ok_bind]
      cases project.stack.database with
      | mysql => simp [Dialect.ofDatabase?]
      | postgresql => simp [Dialect.ofDatabase?]
      | oracle => simp [Dialect.ofDatabase?, Schema.parse_ne_unsupportedDialect]

def onPostgresql : Project where
  name := "shop"
  packageName := "com.acme.shop"
  outputRoot := ⟨"out"⟩
  stack := { database := .postgresql }

/-- Names without quotes are read alike. -/
theorem blank_dialect_same_as_none_users :
    let script := "CREATE TABLE users (id bigint PRIMARY KEY)"
    (onPostgresql.parseTables script none).toOption.map (·.map (·.name)) = some ["users"] ∧
      onPostgresql.parseTables script (some " \t") = onPostgresql.parseTables script none := by
  intro script
  have hread : ∃ tables, Schema.parse .mysql script = .ok tables ∧
      Schema.parse .postgresql script = .ok tables := by
    have hsame : (Schema.parse .mysql script).toOption = (Schema.parse .postgresql script).toOption ∧
        (Schema.parse .mysql script).toOption.isSome := by
      simp only [Schema.parse, Schema.parseWith, Text.isBlankText_eq]
      decide +kernel
    obtain ⟨tables, htables⟩ := Option.isSome_iff_exists.mp hsame.2
    exact ⟨tables, Traversal.toOption_eq_some_iff.mp htables,
      Traversal.toOption_eq_some_iff.mp (hsame.1.symm.trans htables)⟩
  obtain ⟨tables, hmysql, hpostgresql⟩ := hread
  have hblank : Text.isBlankText " \t" := by
    rw [Text.isBlankText_eq]
    decide
  refine ⟨?_, (blank_dialect_same_as_none_iff onPostgresql script hblank).2.mpr
    (.inr (.inr ⟨rfl, hmysql.trans hpostgresql.symm⟩))⟩
  simp only [parseTables, Validation.sql, Schema.parse, Schema.parseWith, Text.isBlankText_eq]
  decide +kernel

/-- Names in double quotes are read by PostgreSQL only, so a blank request loses the table. -/
theorem blank_dialect_rejects_quoted_users :
    let script := "CREATE TABLE \"users\" (\"id\" bigint PRIMARY KEY)"
    Text.isBlankText "  " ∧
      (onPostgresql.parseTables script none).toOption.map (·.map (·.name)) = some ["users"] ∧
      (onPostgresql.parseTables script (some "  ")).toOption = none ∧
      onPostgresql.parseTables script (some "  ") ≠ onPostgresql.parseTables script none := by
  intro script
  have hread : Text.isBlankText "  " ∧
      (onPostgresql.parseTables script none).toOption.map (·.map (·.name)) = some ["users"] ∧
      (onPostgresql.parseTables script (some "  ")).toOption = none := by
    simp only [parseTables, Validation.sql, Schema.parse, Schema.parseWith, Text.isBlankText_eq]
    decide +kernel
  refine ⟨hread.1, hread.2.1, hread.2.2, fun hsame => ?_⟩
  rw [← hsame, hread.2.2] at hread
  cases hread.2.1

end Project

end SchemaScaffold
