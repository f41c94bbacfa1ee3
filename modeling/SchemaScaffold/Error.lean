import SchemaScaffold.Dialect
import SchemaScaffold.Limits
import SchemaScaffold.Role
import SchemaScaffold.Sql.Token

namespace SchemaScaffold

inductive FileFault where
  | notFound
  | alreadyExists
  | notADirectory
  | isADirectory
  | tooManyLinks
  | nameTooLong
  | notUtf8
  deriving DecidableEq, Repr, Inhabited

namespace FileFault

def message : FileFault → String
  | notFound => "No such file or directory (os error 2)"
  | alreadyExists => "File exists (os error 17)"
  | notADirectory => "Not a directory (os error 20)"
  | isADirectory => "Is a directory (os error 21)"
  | tooManyLinks => "Too many levels of symbolic links (os error 40)"
  | nameTooLong => "File name too long (os error 36)"
  | notUtf8 => "stream did not contain valid UTF-8"

end FileFault

inductive RenderFault where
  | undefinedValue (line : Nat)
  | noTemplate
  | malformed
  | wrongKind (line : Nat)
  | unreadable
  | refused (reason : String)
  deriving DecidableEq, Repr, Inhabited

def RenderFault.message (template : String) : RenderFault → String
  | undefinedValue line => "undefined value (in " ++ template ++ ":" ++ toString line ++ ")"
  | noTemplate => "template not found: template \"" ++ template ++ "\" does not exist"
  | malformed => "syntax error"
  | wrongKind line =>
    "invalid operation: unsupported value (in " ++ template ++ ":" ++ toString line ++ ")"
  | unreadable => "invalid operation: could not read template"
  | refused reason => reason

inductive Invalid where
  | blankSql
  | sqlTooLarge
  | sqlFileTooLarge (path : String)
  | blankProjectName
  | malformedProjectName (name : String)
  | projectNameTooLong
  | blankPackageName
  | malformedPackageName (name : String)
  | packageNameTooLong
  | blankOutputDir
  | escapingOutputDir (dir : String)
  | malformedFrameworkVersion (version : String)
  | noTablesAllowed
  | noSqlFile
  | sqlFileNotFound (path : String)
  | fileTooLarge (name : String) (bytes : Nat)
  | tooManyFiles (count : Nat)
  | emptyFileName
  /-- Nothing but blanks is left of the name, which is shown with them escaped. -/
  | blankFileName (escaped : String)
  | emptyPath
  | noApplicationClass (projectName : String)
  | duplicateArtifact (fileName : String) (first second : Origin)
  | samePath (first second path : String)
  | noProjectDirectory (path : String)
  deriving DecidableEq, Repr, Inhabited

def Limits.inMebibytes (bytes : Nat) : String :=
  "max " ++ toString (bytes / Limits.mebibyte) ++ " MiB"

namespace Invalid

def message : Invalid → String
  | blankSql => "SQL cannot be empty"
  | sqlTooLarge => "SQL too large (" ++ Limits.inMebibytes Limits.maxSqlBytes ++ ")"
  | sqlFileTooLarge path =>
    "SQL file " ++ path ++ " too large (" ++ Limits.inMebibytes Limits.maxSqlBytes ++ ")"
  | blankProjectName => "Project name cannot be empty"
  | malformedProjectName name => "Invalid project name format: " ++ name
  | projectNameTooLong =>
    "Project name too long (max " ++ toString Limits.maxProjectNameLength ++ " characters)"
  | blankPackageName => "Package name cannot be empty"
  | malformedPackageName name => "Invalid package name format: " ++ name
  | packageNameTooLong =>
    "Package name too long (max " ++ toString Limits.maxPackageNameLength ++ " characters)"
  | blankOutputDir => "Output directory cannot be empty"
  | escapingOutputDir dir => "Invalid output directory (path traversal): " ++ dir
  | malformedFrameworkVersion version => "Invalid framework version: '" ++ version ++ "'"
  | noTablesAllowed => "max_tables must be at least 1"
  | noSqlFile => "sql_file is required"
  | sqlFileNotFound path => "SQL file not found: " ++ path
  | fileTooLarge name bytes =>
    "File " ++ name ++ " too large (" ++ toString bytes ++ " bytes, "
      ++ Limits.inMebibytes Limits.maxFileBytes ++ ")"
  | tooManyFiles count =>
    "Too many files to generate (" ++ toString count ++ ", max " ++ toString Limits.maxFiles ++ ")"
  | emptyFileName => "Filename cannot be empty"
  | blankFileName escaped => "Filename '" ++ escaped ++ "' is empty after sanitizing"
  | emptyPath => "Path cannot be empty"
  | noApplicationClass projectName =>
    "Project name '" ++ projectName ++ "' does not produce a valid class name"
  | duplicateArtifact fileName first second =>
    "Duplicate artifact " ++ fileName ++ ": produced by " ++ first.describe ++ " and "
      ++ second.describe
  | samePath first second path =>
    "Generated files " ++ first ++ " and " ++ second ++ " both resolve to " ++ path
  | noProjectDirectory path => "Project directory does not exist: " ++ path

end Invalid

inductive SchemaFault where
  | blank
  | noStatement
  /-- No statement could be parsed; this is the first one that was rejected, and why. -/
  | rejected (statement : String) (cause : Sql.SyntaxError)
  | columnName (raw : String)
  | tableName (name : String)
  deriving Repr

def SchemaFault.message : SchemaFault → String
  | blank => "SQL cannot be empty"
  | noStatement => "no parsable SQL statement found"
  | rejected statement cause => "sql parser error: " ++ cause.message statement.toList
  | columnName raw => "column name '" ++ raw ++ "' does not produce a valid identifier"
  | tableName name => "table name '" ++ name ++ "' does not produce a valid class name"

inductive Escape where
  | base (path : String)
  | candidate (path : String)
  deriving DecidableEq, Repr, Inhabited

def Escape.message : Escape → String
  | base path => "Base directory is outside allowed path: " ++ path
  | candidate path => "Path traversal detected: " ++ path

inductive ConfigFault where
  | noTemplates (path : String)
  | malformed (path : String)
  | unusable (key : String)
  | unsupported (setting : Setting) (value : String)
  | noFile (path : String)
  deriving DecidableEq, Repr, Inhabited

def supportedList (names : List String) : String :=
  " (supported: " ++ ", ".intercalate names ++ ")"

def Setting.refusal (setting : Setting) (value : String) : String :=
  "Unsupported " ++ setting.label ++ " '" ++ value ++ "'" ++ supportedList setting.supported

namespace ConfigFault

def message : ConfigFault → String
  | noTemplates path => "Templates directory not found: " ++ path
  | malformed path => "Failed to parse config file " ++ path
  | unusable key => "unusable value for key " ++ key
  | unsupported setting value => setting.refusal value
  | noFile path => "configuration file \"" ++ path ++ "\" not found"

end ConfigFault

inductive ArchiveFault where
  | unreadable (path : String) (fault : FileFault)
  | duplicateName
  deriving DecidableEq, Repr, Inhabited

def ArchiveFault.message : ArchiveFault → String
  | unreadable path fault => "IO error for operation on " ++ path ++ ": " ++ fault.message
  | duplicateName => "invalid Zip archive: Duplicate filename"

inductive Error where
  | schema (fault : SchemaFault)
  | noTables
  | invalid (cause : Invalid)
  | tooManyTables (count max : Nat)
  | unsupportedDialect (name : String)
  | unsupportedSetting (setting : Setting) (value : String)
  | escape (path : Escape)
  | render (template : String) (fault : RenderFault)
  | config (fault : ConfigFault)
  | file (fault : FileFault)
  | archive (fault : ArchiveFault)
  deriving Repr

inductive ErrorKind where
  | validation
  | parse
  | unsupportedConfiguration
  | security
  | render
  | io
  | config
  deriving DecidableEq, Repr, Inhabited

namespace Error

def kind : Error → ErrorKind
  | schema _ | noTables => .parse
  | invalid _ | tooManyTables .. => .validation
  | unsupportedDialect _ | unsupportedSetting .. => .unsupportedConfiguration
  | escape _ => .security
  | render .. => .render
  | config _ => .config
  | file _ | archive .. => .io

def message : Error → String
  | schema fault => "Failed to parse SQL schema: " ++ fault.message
  | noTables => "Failed to parse SQL schema: no CREATE TABLE statements found"
  | invalid cause => "Validation error: " ++ cause.message
  | tooManyTables count max =>
    "Validation error: too many tables (" ++ toString count ++ ", max " ++ toString max ++ ")"
  | unsupportedDialect name =>
    "Unsupported dialect '" ++ name ++ "'" ++ supportedList Dialect.supported
  | unsupportedSetting setting value => setting.refusal value
  | escape path => "Security violation: " ++ path.message
  | render template fault =>
    "Failed to render template " ++ template ++ ": " ++ fault.message template
  | config fault => "Configuration error: " ++ fault.message
  | file fault => "IO error: " ++ fault.message
  | archive fault => "Archive error: " ++ fault.message

end Error

abbrev Result := Except Error

def Result.invalid {α : Type} (cause : Invalid) : Result α := .error (.invalid cause)

end SchemaScaffold
