import SchemaScaffold.Command.Line
import SchemaScaffold.Command.Report
import SchemaScaffold.Config.Sources
import SchemaScaffold.Output.Zip
import SchemaScaffold.Run

namespace SchemaScaffold.Command

structure Outcome where
  code : Nat
  stdout : String
  stderr : String
  deriving DecidableEq, Repr, Inhabited

abbrev Execution := ExceptT Failure (StateM Disk)

def ofFiling {α : Type} (activity : Filing α) : Execution α := do
  let (result, disk) := activity.on (← get)
  set disk
  match result with
  | .ok a => pure a
  | .error error => throw (.plain error)

def ofResult {α : Type} (result : Result α) : Execution α := ofFiling (Filing.ofResult result)

def readTables (start : AbsPath) (settings : Settings) : Execution (List Table) := do
  let disk ← get
  ofResult (Run.check disk start settings)
  match Run.readScript disk start settings.sqlFile with
  | .ok script => ofResult (settings.project.parseTables script settings.dialect)
  | .error error => throw (.reading settings.sqlFile error)

def generate (start : AbsPath) (settings : Settings) : Execution String := do
  let placements ← ofFiling (Run.generate start settings)
  return if settings.dryRun then dryRunReport placements else ""

def inspect (start : AbsPath) (settings : Settings) (json : Bool) : Execution String := do
  let tables ← readTables start settings
  return if json then inspectionJson tables else inspection tables

def plan (start : AbsPath) (settings : Settings) : Execution String := do
  let tables ← readTables start settings
  let project := settings.project
  let artifacts ← ofResult (Plan.make project Selector.standard tables settings.maxTables)
  ofResult (planReport project artifacts)

def pack (start : AbsPath) (settings : Settings) : Execution String := do
  ofResult settings.checkProject
  let guard ← ofResult (Guard.make start settings.baseDir)
  let bytes := Archive.Zip.encode
    (← ofResult (Archive.pack (← get) settings.project.dir guard))
  let place ← ofResult (guard.resolveDir settings.archivePath)
  let (result, disk) := (Filing.write place bytes).on (← get)
  set disk
  match result with
  | .ok _ => return packReport place bytes.size
  | .error (.file fault) => throw (.writing place fault)
  | .error error => throw (.plain error)

def act (start : AbsPath) (settings : Settings) : Action → Execution String
  | .generate => generate start settings
  | .inspect json => inspect start settings json
  | .plan => plan start settings
  | .pack => pack start settings

/-- The settings of a call: what its options do not give comes from a file and the environment. -/
def settings (start : AbsPath) (environment : List (String × String)) (options : Options) :
    Execution Settings := do
  options.override <$> ofResult (Config.load (← get) start options.config environment)

def versionText : String := "s2s-codegen 0.1.0\n"

def helpText : String := ofLines [
  "Generate a Spring Boot backend project from SQL CREATE TABLE statements",
  "",
  "Usage: s2s-codegen [OPTIONS] [COMMAND]",
  "",
  "Commands:",
  "  generate  Generate the project (default)",
  "  inspect   Inspect schema (show parsed tables for debugging)",
  "  plan      List the artifacts with their templates and target paths",
  "  pack      Zip a generated project into <output>/<project>.zip",
  "  help      Print this message or the help of the given subcommand(s)",
  "",
  "Options:",
  "  -c, --config <CONFIG>              Path to configuration file (TOML format)",
  "  -s, --sql <SQL>                    Path to SQL schema file (overrides config)",
  "  -o, --output <OUTPUT>              Directory the project directory is created in",
  "  -d, --dialect <DIALECT>            DDL dialect: mysql or postgresql",
  "  -t, --templates <TEMPLATES>        Directory holding the template files",
  "      --project-name <PROJECT_NAME>  Project name (overrides config)",
  "      --package-name <PACKAGE_NAME>  Base Java package (overrides config)",
  "      --orm <ORM>                    ORM framework: mybatis, mybatis-plus or jpa",
  "      --build-tool <BUILD_TOOL>      Build tool: maven or gradle",
  "      --dry-run                      Show what would be generated without writing files",
  "  -h, --help                         Print help",
  "  -V, --version                      Print version"]

def misuseText : String := ofLines [
  "error: unexpected or missing argument",
  "",
  "For more information, try '--help'."]

/-- How a call ends, and the disk afterwards. -/
def execute (start : AbsPath) (environment : List (String × String)) (arguments : List String)
    (disk : Disk) : Outcome × Disk :=
  match parse arguments with
  | .help => (⟨0, helpText, ""⟩, disk)
  | .version => (⟨0, versionText, ""⟩, disk)
  | .misuse => (⟨2, "", misuseText⟩, disk)
  | .run options action =>
    let work : Execution String := do
      act start (← settings start environment options) action
    match work.run disk with
    | (.ok output, disk) => (⟨0, output, ""⟩, disk)
    | (.error failure, disk) => (⟨1, "", failure.report⟩, disk)

end SchemaScaffold.Command
