import SchemaScaffold.Config.StackData
import SchemaScaffold.Project

namespace SchemaScaffold

structure Settings where
  sqlFile : Path := ⟨""⟩
  dialect : Option String := none
  projectName : String := "demo"
  packageName : String := "com.example.demo"
  outputDir : Path := ⟨"./generated"⟩
  /-- The directory that no file is written outside of, or none for the output directory. -/
  allowedBaseDir : Option Path := none
  templatesDir : Path := ⟨"./templates"⟩
  stack : Stack := {}
  maxTables : Nat := Limits.maxTables
  dryRun : Bool := false
  logLevel : Option String := none
  deriving DecidableEq, Repr, Inhabited

namespace Config

inductive SettingsKey where
  | sqlFile
  | dialect
  | projectName
  | packageName
  | outputDir
  | allowedBaseDir
  | templatesDir
  | stack
  | maxTables
  | dryRun
  | logLevel
  deriving DecidableEq, Repr, Inhabited

namespace SettingsKey

def all : List SettingsKey :=
  [sqlFile, dialect, projectName, packageName, outputDir, allowedBaseDir, templatesDir, stack,
    maxTables, dryRun, logLevel]

def name : SettingsKey → String
  | sqlFile => "sql_file"
  | dialect => "dialect"
  | projectName => "project_name"
  | packageName => "package_name"
  | outputDir => "output_dir"
  | allowedBaseDir => "allowed_base_dir"
  | templatesDir => "templates_dir"
  | stack => "tech_stack"
  | maxTables => "max_tables"
  | dryRun => "dry_run"
  | logLevel => "log_level"

def ofName? (name : String) : Option SettingsKey := all.find? (·.name == name)

end SettingsKey

def optionalText (conversion : Conversion) (key : String) : Datum → Reading (Option String)
  | .null => .ok none
  | datum => some <$> usable key (datum.toText? conversion)

end Config

open Config

namespace Settings

def set (conversion : Conversion) (settings : Settings) (key : SettingsKey) (datum : Datum) :
    Reading Settings := do
  let text : Reading String := usable key.name (datum.toText? conversion)
  let optional : Reading (Option String) := optionalText conversion key.name datum
  match key with
  | .sqlFile => return { settings with sqlFile := ⟨← text⟩ }
  | .dialect => return { settings with dialect := ← optional }
  | .projectName => return { settings with projectName := ← text }
  | .packageName => return { settings with packageName := ← text }
  | .outputDir => return { settings with outputDir := ⟨← text⟩ }
  | .allowedBaseDir => return { settings with allowedBaseDir := (← optional).map Path.mk }
  | .templatesDir => return { settings with templatesDir := ⟨← text⟩ }
  | .stack => return { settings with stack := ← Stack.ofDatum conversion datum }
  | .maxTables =>
    return { settings with maxTables := ← usable key.name (datum.toCount? conversion) }
  | .dryRun => return { settings with dryRun := ← usable key.name (datum.toBool? conversion) }
  | .logLevel => return { settings with logLevel := ← optional }

/-- Gives settings new values one after the other; names that are not known are passed over. -/
def setAll (conversion : Conversion) (settings : Settings) :
    List (String × Datum) → Reading Settings
  | [] => .ok settings
  | (name, datum) :: rest =>
    match SettingsKey.ofName? name with
    | some key => do setAll conversion (← settings.set conversion key datum) rest
    | none => setAll conversion settings rest

def ofFields (conversion : Conversion) (fields : List (String × Datum)) : Reading Settings :=
  setAll conversion {} (inOrder fields)

def baseDir (settings : Settings) : Path := settings.allowedBaseDir.getD settings.outputDir

/-- The project that the settings describe. Blanks around its names are left out. -/
def project (settings : Settings) : Project where
  name := Text.trim settings.projectName
  packageName := Text.trim settings.packageName
  outputRoot := settings.outputDir
  stack := settings.stack

def archivePath (settings : Settings) : Path :=
  settings.outputDir.join ⟨Text.trim settings.projectName ++ ".zip"⟩

def checkProject (settings : Settings) : Result Unit := do
  Validation.projectName settings.projectName
  Validation.packageName settings.packageName
  Validation.outputDir settings.outputDir.text
  Validation.stack settings.stack
  Validation.require (settings.maxTables != 0) .noTablesAllowed

def pathValue (path : Path) : Value := .text path.text

def toValue (settings : Settings) : Value :=
  .record (SettingsKey.all.map fun key => (key.name, match key with
    | .sqlFile => pathValue settings.sqlFile
    | .dialect => .optText settings.dialect
    | .projectName => .text settings.projectName
    | .packageName => .text settings.packageName
    | .outputDir => pathValue settings.outputDir
    | .allowedBaseDir => .optText (settings.allowedBaseDir.map (·.text))
    | .templatesDir => pathValue settings.templatesDir
    | .stack => settings.stack.toValue
    | .maxTables => .number settings.maxTables
    | .dryRun => .bool settings.dryRun
    | .logLevel => .optText settings.logLevel))

end Settings

end SchemaScaffold
