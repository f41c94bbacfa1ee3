import SchemaScaffold.Error
import SchemaScaffold.Stack
import SchemaScaffold.Text.Fields

/-!
# Validation

What is checked before anything is parsed or written. Every check names the first rule that its
input breaks.
-/

namespace SchemaScaffold.Validation

def require (condition : Bool) (cause : Invalid) : Result Unit :=
  if condition then .ok () else Result.invalid cause

def isLowerAlphanumeric (c : Char) : Bool := c.isLower || c.isDigit

def isProjectNameChar (c : Char) : Bool :=
  isLowerAlphanumeric c || c == '.' || c == '_' || c == '-'

def isProjectName (name : List Char) : Bool :=
  name.all isProjectNameChar && name.head?.any isLowerAlphanumeric
    && name.getLast?.any isLowerAlphanumeric

def isPackageSegment : List Char → Bool
  | [] => false
  | c :: rest => c.isLower && rest.all fun d => isLowerAlphanumeric d || d == '_'

def isPackageName (name : List Char) : Bool := (Text.fields '.' name).all isPackageSegment

/-- Checks the name of a project. The case of its letters does not matter. -/
def projectName (name : String) : Result Unit := do
  require (!Text.isBlankText name) .blankProjectName
  require (isProjectName (Text.lower name).toList) (.malformedProjectName name)
  require (name.length ≤ Limits.maxProjectNameLength) .projectNameTooLong

def packageName (name : String) : Result Unit := do
  require (!Text.isBlankText name) .blankPackageName
  require (isPackageName (Text.lower name).toList) (.malformedPackageName name)
  require (name.length ≤ Limits.maxPackageNameLength) .packageNameTooLong

def sql (script : String) : Result Unit := do
  require (!Text.isBlankText script) .blankSql
  require (script.utf8ByteSize ≤ Limits.maxSqlBytes) .sqlTooLarge

def hasDoubleDot : List Char → Bool
  | '.' :: '.' :: _ => true
  | _ :: rest => hasDoubleDot rest
  | [] => false

/-- Checks an output directory: it is given, and does not lead out of where it starts. -/
def outputDir (dir : String) : Result Unit := do
  require (!Text.isBlankText dir) .blankOutputDir
  require (!hasDoubleDot dir.toList && !dir.toList.contains '~') (.escapingOutputDir dir)

def fileSize (name : String) (bytes : Nat) : Result Unit :=
  require (bytes ≤ Limits.maxFileBytes) (.fileTooLarge name bytes)

def fileCount (count : Nat) : Result Unit :=
  require (count ≤ Limits.maxFiles) (.tooManyFiles count)

def isVersionPart (part : List Char) : Bool :=
  !part.isEmpty && part.all fun c => c.isAlphanum || c == '-'

def isVersion (version : List Char) : Bool := (Text.fields '.' version).all isVersionPart

/-- Checks what a stack does not have from a closed choice: its framework version. Blanks around
it do not matter. -/
def stack (stack : Stack) : Result Unit :=
  require (isVersion (Text.trimList stack.frameworkVersion.toList))
    (.malformedFrameworkVersion stack.frameworkVersion)

end SchemaScaffold.Validation
