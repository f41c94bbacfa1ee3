import SchemaScaffold.Config.Settings
import SchemaScaffold.Generate
import SchemaScaffold.Output.Write

namespace SchemaScaffold.Run

def fileResult {α : Type} : Except FileFault α → Result α
  | .ok a => .ok a
  | .error fault => .error (.file fault)

def fileSize (disk : Disk) (start : AbsPath) (path : Path) : Result Nat :=
  match disk.find start path with
  | .ok (.file bytes) => .ok bytes.size
  | .ok _ => .ok 0
  | .error fault => .error (.file fault)

/-- The script of a file. A file that is too large is not read. -/
def readScript (disk : Disk) (start : AbsPath) (path : Path) : Result String := do
  Validation.require ((← fileSize disk start path) ≤ Limits.maxSqlBytes)
    (.sqlFileTooLarge path.text)
  let script ← fileResult (disk.readText start path)
  Validation.sql script
  return script

/-- Checks settings before a run: there is a script, and the rest is in order. -/
def check (disk : Disk) (start : AbsPath) (settings : Settings) : Result Unit := do
  Validation.require (!settings.sqlFile.isEmpty) .noSqlFile
  Validation.require (disk.contains start settings.sqlFile)
    (.sqlFileNotFound settings.sqlFile.text)
  settings.checkProject

def prepare (disk : Disk) (start : AbsPath) (settings : Settings) : Result (FileMap × Guard) := do
  check disk start settings
  let script ← readScript disk start settings.sqlFile
  let renderer ← Renderer.ofDirectory disk start settings.templatesDir
  let files ← Generate.ofScript renderer settings.project Selector.standard script
    settings.dialect settings.maxTables
  return (files, ← Guard.make start settings.baseDir)

/-- Generates a project: where its files are, or would be in a dry run. -/
def generate (start : AbsPath) (settings : Settings) : Filing (List Placement) := do
  let (files, guard) ← Filing.ofResult (prepare (← get) start settings)
  if settings.dryRun then Filing.ofResult (Placement.plan files settings.project guard)
  else Output.writeProject files settings.project guard

end SchemaScaffold.Run
