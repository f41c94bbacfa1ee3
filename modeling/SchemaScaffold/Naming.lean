import SchemaScaffold.Text.Alphanumeric
import SchemaScaffold.Text.Blank
import SchemaScaffold.Text.CaseMap

/-!
# Names

How an identifier of the database becomes a name in generated sources: a class name in upper camel
case, a property name or an instance name in lower camel case. A name never keeps a quote
character, and a property or instance name is never a reserved word.
-/

namespace SchemaScaffold.Naming

open SchemaScaffold.Text

def isQuote (c : Char) : Bool := c.toNat == 0x60 || c == '"' || c == '\''

def stripQuotesList (chars : List Char) : List Char :=
  trimList (chars.filter fun c => !isQuote c)

def stripQuotes (raw : String) : String := String.ofList (stripQuotesList raw.toList)

def titleCase : List Char → List Char
  | [] => []
  | c :: rest => upperChar c ++ rest.flatMap lowerChar

/-- The segments of an identifier: what stands between underscores and other characters that no
identifier may hold. -/
def segments (chars : List Char) : List (List Char) :=
  runs (fun c => c != '_' && isAlphanumeric c) chars

def guardDigit (name : List Char) : List Char :=
  match name with
  | c :: _ => if c.isDigit then 'C' :: 'o' :: 'l' :: name else name
  | [] => []

def typeNameList (raw : List Char) : List Char :=
  guardDigit (((segments (stripQuotesList raw)).flatMap titleCase).filter fun c => !isQuote c)

/-- The class name of an identifier: its segments in title case, joined. It is empty when the
identifier has no alphanumeric character, which callers treat as a failure. -/
def typeName (raw : String) : String := String.ofList (typeNameList raw.toList)

def javaKeywords : List String :=
  ["abstract", "assert", "boolean", "break", "byte", "case", "catch", "char", "class", "const",
   "continue", "default", "do", "double", "else", "enum", "extends", "final", "finally", "float",
   "for", "goto", "if", "implements", "import", "instanceof", "int", "interface", "long",
   "native", "new", "package", "private", "protected", "public", "return", "short", "static",
   "strictfp", "super", "switch", "synchronized", "this", "throw", "throws", "transient", "try",
   "void", "volatile", "while", "true", "false", "null", "var", "record", "yield"]

def isJavaKeyword (name : String) : Bool := javaKeywords.contains name

def avoidKeyword (name : String) : String :=
  if isJavaKeyword name then name ++ "Value" else name

def uncapitalize : List Char → List Char
  | [] => []
  | c :: rest => lowerChar c ++ rest

/-- The property name of an identifier: its class name with the first letter in lower case. It is
empty exactly when the class name is. -/
def propertyName (raw : String) : String :=
  avoidKeyword (String.ofList (uncapitalize (typeNameList raw.toList)))

def applicationClassName (projectName : String) : String :=
  String.ofList (typeNameList (projectName.toList.map fun c => if c == '-' then '_' else c))

def packageDirectory (packageName : String) : String :=
  String.ofList ((trimList packageName.toList).map fun c => if c == '.' then '/' else c)

/-! ### Instance names

An instance name is read off a name in camel case. A word ends between a lower-case and an
upper-case letter, and before the last capital of a run of capitals that a lower-case letter
follows (`HTMLPage` is `HTML`, `Page`). -/

inductive WordMode where
  | start
  | lowercase
  | uppercase
  deriving DecidableEq

def WordMode.next (mode : WordMode) (c : Char) : WordMode :=
  if isLowercase c then .lowercase else if isUppercase c then .uppercase else mode

def camelWords (mode : WordMode) (word : List Char) : List Char → List (List Char)
  | [] => []
  | [c] => [(c :: word).reverse]
  | c :: d :: rest =>
    if mode.next c == .lowercase && isUppercase d then
      (c :: word).reverse :: camelWords .start [] (d :: rest)
    else if mode == .uppercase && isUppercase c && isLowercase d then
      word.reverse :: camelWords .start [c] (d :: rest)
    else camelWords (mode.next c) (c :: word) (d :: rest)

/-- A word in lower case. A capital sigma at its end becomes a final sigma. -/
def lowerWord : List Char → List Char
  | [] => []
  | c :: rest =>
    if c == capitalSigma && rest.isEmpty then [finalSigma] else lowerChar c ++ lowerWord rest

def capitalizeWord : List Char → List Char
  | [] => []
  | c :: rest => upperChar c ++ lowerWord rest

def lowerCamelCase (name : List Char) : List Char :=
  match (runs isAlphanumeric name).flatMap (camelWords .start []) with
  | [] => []
  | first :: others => lowerWord first ++ others.flatMap capitalizeWord

def instanceName (className : String) : String :=
  avoidKeyword (String.ofList (lowerCamelCase className.toList))

end SchemaScaffold.Naming
