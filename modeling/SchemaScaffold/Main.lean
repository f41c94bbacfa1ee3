import SchemaScaffold.Command.Execution

/-!
# The program

The outer layer: it takes a picture of the part of the file system that a call is about, lets the
call work on the picture, and carries over what has changed.
-/

namespace SchemaScaffold.Main

def currentPlace : IO AbsPath := do
  return AbsPath.root.follow ⟨(← IO.currentDir).toString⟩

def withDirectories (disk : Disk) (place : AbsPath) : Disk :=
  ((Filing.makeDirectories place).on disk).2

def entryAt (place : AbsPath) : IO.FS.DirEntry :=
  ⟨place.parent.toString, place.names.getLastD "."⟩

/-- Takes over a file or a directory with all that is in it; links inside it are left out. -/
partial def takeOver (disk : Disk) (place : AbsPath) : IO Disk := do
  match ← (IO.FS.readBinFile place.toString).toBaseIO with
  | .ok bytes => return (withDirectories disk place.parent).put place (.file bytes)
  | .error _ =>
    let mut disk := withDirectories disk place
    for entry in ← (entryAt place).path.readDir do
      match (← entry.path.symlinkMetadata).type with
      | .file | .dir => disk ← takeOver disk (place.child entry.fileName)
      | .symlink | .other => pure ()
    return disk

def takeOverIfThere (start : AbsPath) (disk : Disk) (path : Path) : IO Disk := do
  let place := start.follow path
  if path.isEmpty then return disk
  if ← (entryAt place).path.pathExists then takeOver disk place
  else return disk

def variableNames : List String :=
  let stackNames := Config.StackKey.all.flatMap Config.StackKey.names
  (Config.SettingsKey.all.map Config.SettingsKey.name
      ++ stackNames.map ("tech_stack__" ++ ·)).map fun name =>
    Text.upper (String.ofList Config.variableStart ++ name)

def environment : IO (List (String × String)) :=
  variableNames.filterMapM fun name => do
    return (← IO.getEnv name).map fun value => (name, value)

def pathsOf (settings : Settings) : Command.Action → List Path
  | .generate => [settings.sqlFile, settings.templatesDir, settings.project.dir]
  | .inspect _ | .plan => [settings.sqlFile]
  | .pack => [settings.project.dir, settings.archivePath]

def picture (start : AbsPath) (given : List (String × String)) (arguments : List String) :
    IO Disk := do
  let empty := withDirectories default start
  match Command.parse arguments with
  | .run options action =>
    let file := options.config.getD Config.defaultFile
    let disk ← [file, ⟨file.text ++ Config.fileExtension⟩].foldlM (takeOverIfThere start) empty
    match (Command.settings start given options).run disk with
    | (.ok settings, disk) => (pathsOf settings action).foldlM (takeOverIfThere start) disk
    | (.error _, disk) => return disk
  | _ => return empty

def carryOver (old new : Disk) : IO Unit := do
  for (names, node) in new.root.descendants do
    let place : AbsPath := ⟨names⟩
    match node, old.node? place with
    | .directory _, none => IO.FS.createDirAll place.toString
    | .file bytes, some (.file before) =>
      if bytes != before then IO.FS.writeBinFile place.toString bytes
    | .file bytes, _ => IO.FS.writeBinFile place.toString bytes
    | _, _ => pure ()

def run (arguments : List String) : IO UInt32 := do
  let start ← currentPlace
  let given ← environment
  let disk ← picture start given arguments
  let (outcome, changed) := Command.execute start given arguments disk
  carryOver disk changed
  (← IO.getStdout).putStr outcome.stdout
  (← IO.getStderr).putStr outcome.stderr
  return UInt32.ofNat outcome.code

end SchemaScaffold.Main

def main (arguments : List String) : IO UInt32 := SchemaScaffold.Main.run arguments
