import SchemaScaffold.Config.Settings

namespace SchemaScaffold.Command

inductive Action where
  | generate
  | inspect (json : Bool)
  | plan
  | pack
  deriving DecidableEq, Repr, Inhabited

structure Options where
  config : Option Path := none
  sql : Option Path := none
  output : Option Path := none
  dialect : Option String := none
  templates : Option Path := none
  projectName : Option String := none
  packageName : Option String := none
  orm : Option Orm := none
  buildTool : Option BuildTool := none
  dryRun : Bool := false
  deriving DecidableEq, Repr, Inhabited

inductive Request where
  | run (options : Options) (action : Action)
  | help
  | version
  | misuse
  deriving DecidableEq, Repr, Inhabited

inductive OptionKey where
  | config
  | sql
  | output
  | dialect
  | templates
  | projectName
  | packageName
  | orm
  | buildTool
  deriving DecidableEq, Repr, Inhabited

namespace OptionKey

def all : List OptionKey :=
  [config, sql, output, dialect, templates, projectName, packageName, orm, buildTool]

def name : OptionKey → String
  | config => "config"
  | sql => "sql"
  | output => "output"
  | dialect => "dialect"
  | templates => "templates"
  | projectName => "project-name"
  | packageName => "package-name"
  | orm => "orm"
  | buildTool => "build-tool"

def letter? : OptionKey → Option Char
  | config => some 'c'
  | sql => some 's'
  | output => some 'o'
  | dialect => some 'd'
  | templates => some 't'
  | projectName | packageName | orm | buildTool => none

def ofName? (name : String) : Option OptionKey := all.find? (·.name == name)

def ofLetter? (letter : Char) : Option OptionKey := all.find? (·.letter? == some letter)

end OptionKey

namespace Options

def fill {α : Type} (old new : Option α) : Option (Option α) :=
  match old, new with
  | none, some a => some (some a)
  | _, _ => none

def path? (text : String) : Option Path := if text.isEmpty then none else some ⟨text⟩

/-- Gives an option its value, unless it has one already or the value is not acceptable. -/
def set (options : Options) (key : OptionKey) (value : String) : Option Options :=
  match key with
  | .config => (fill options.config (path? value)).map fun config => { options with config }
  | .sql => (fill options.sql (path? value)).map fun sql => { options with sql }
  | .output => (fill options.output (path? value)).map fun output => { options with output }
  | .dialect => (fill options.dialect (some value)).map fun dialect => { options with dialect }
  | .templates =>
    (fill options.templates (path? value)).map fun templates => { options with templates }
  | .projectName =>
    (fill options.projectName (some value)).map fun projectName => { options with projectName }
  | .packageName =>
    (fill options.packageName (some value)).map fun packageName => { options with packageName }
  | .orm => (fill options.orm (Orm.ofText? value)).map fun orm => { options with orm }
  | .buildTool =>
    (fill options.buildTool (BuildTool.ofText? value)).map fun buildTool =>
      { options with buildTool }

def override (options : Options) (settings : Settings) : Settings :=
  { settings with
    sqlFile := options.sql.getD settings.sqlFile
    outputDir := options.output.getD settings.outputDir
    dialect := options.dialect.or settings.dialect
    templatesDir := options.templates.getD settings.templatesDir
    projectName := options.projectName.getD settings.projectName
    packageName := options.packageName.getD settings.packageName
    stack := { settings.stack with
      orm := options.orm.getD settings.stack.orm
      buildTool := options.buildTool.getD settings.stack.buildTool }
    dryRun := options.dryRun || settings.dryRun }

end Options

def isHelp (argument : String) : Bool := argument == "-h" || argument == "--help"

def afterCommand (options : Options) (action : Action) : List String → Request
  | [] | ["--"] => .run options action
  | argument :: _ => if isHelp argument then .help else .misuse

def afterInspect (options : Options) : List String → Request
  | "--json" :: rest => afterCommand options (.inspect true) rest
  | rest => afterCommand options (.inspect false) rest

def afterHelp : List String → Request
  | [] => .help
  | [name] =>
    if ["generate", "inspect", "plan", "pack", "help"].contains name then .help else .misuse
  | _ => .misuse

def command (options : Options) (name : String) (rest : List String) : Request :=
  match name with
  | "generate" => afterCommand options .generate rest
  | "plan" => afterCommand options .plan rest
  | "pack" => afterCommand options .pack rest
  | "inspect" => afterInspect options rest
  | "help" => afterHelp rest
  | _ => .misuse

inductive Argument where
  | long (name : String) (value : Option String)
  | short (letter : Char) (rest : List Char)
  | separator
  | word (text : String)
  deriving DecidableEq, Repr, Inhabited

def Argument.ofText (text : String) : Argument :=
  match text.toList with
  | ['-', '-'] => .separator
  | '-' :: '-' :: rest =>
    .long (String.ofList (rest.takeWhile (· != '=')))
      (match rest.dropWhile (· != '=') with
        | _ :: value => some (String.ofList value)
        | [] => none)
  | '-' :: letter :: rest => .short letter rest
  | _ => .word text

def Argument.isValue : Argument → Bool
  | word _ => true
  | _ => false

def attached (rest : List Char) : Option String :=
  match rest with
  | [] => none
  | '=' :: value => some (String.ofList value)
  | value => some (String.ofList value)

inductive Step where
  | finish (request : Request)
  | goOn (options : Options)
  | await (key : OptionKey)
  | command (name : String)
  deriving DecidableEq, Repr, Inhabited

def give (options : Options) (key : OptionKey) (value : String) : Step :=
  match options.set key value with
  | some options => .goOn options
  | none => .finish .misuse

def takeOption (options : Options) (key : Option OptionKey) (value : Option String) : Step :=
  match key, value with
  | some key, some value => give options key value
  | some key, none => .await key
  | none, _ => .finish .misuse

def takeArgument (options : Options) (isLast : Bool) : Argument → Step
  | .separator => .finish (if isLast then .run options .generate else .misuse)
  | .long "help" none => .finish .help
  | .long "version" none => .finish .version
  | .long "dry-run" none =>
    if options.dryRun then .finish .misuse else .goOn { options with dryRun := true }
  | .long name value => takeOption options (OptionKey.ofName? name) value
  | .short 'h' _ => .finish .help
  | .short 'V' _ => .finish .version
  | .short letter rest => takeOption options (OptionKey.ofLetter? letter) (attached rest)
  | .word name => .command name

def takeValue (options : Options) (key : OptionKey) (text : String) : Step :=
  if (Argument.ofText text).isValue then give options key text else .finish .misuse

/-- What the arguments of a call ask for, given the options before them. `awaiting` is the option
that the first argument is the value of. -/
def parseFrom (options : Options) (awaiting : Option OptionKey) : List String → Request
  | [] => if awaiting.isSome then .misuse else .run options .generate
  | argument :: rest =>
    let step := match awaiting with
      | some key => takeValue options key argument
      | none => takeArgument options rest.isEmpty (Argument.ofText argument)
    match step with
    | .finish request => request
    | .goOn options => parseFrom options none rest
    | .await key => parseFrom options (some key) rest
    | .command name => command options name rest

/-- What the arguments of a call ask for. -/
def parse (arguments : List String) : Request := parseFrom {} none arguments

end SchemaScaffold.Command
