import SchemaScaffold.Error
import SchemaScaffold.Template.Part
import SchemaScaffold.Text.CaseMap

/-!
# Rendering templates

What a template prints for a model. A name without a value is undefined: it may be passed on, but
printing it, testing it, going through its items or looking inside it is an error.
-/

namespace SchemaScaffold.Template

abbrev Item := Option Value

abbrev Scope := List (String × Item)

structure Env where
  model : Value
  bindings : Scope := []
  macros : List (String × Scope) := []

namespace Env

def get (env : Env) (name : String) : Item :=
  match env.bindings.lookup name with
  | some item => item
  | none => env.model.field? name

def set (env : Env) (name : String) (item : Item) : Env :=
  { env with bindings := (name, item) :: env.bindings }

def define (env : Env) (macroName : String) : Env :=
  { env with macros := (macroName, env.bindings) :: env.macros }

end Env

abbrev Rendering := Except RenderFault

def defined (line : Nat) : Item → Rendering Value
  | some value => .ok value
  | none => .error (.undefinedValue line)

def quotedText : Value → String → String
  | .text _, printed => "\"" ++ printed ++ "\""
  | _, printed => printed

mutual

def printedText : Value → String
  | .null => "None"
  | .bool b => if b then "True" else "False"
  | .number n => toString n
  | .text s => s
  | .list items => "[" ++ ", ".intercalate (quotedItems items) ++ "]"
  | .record fields => "\x7b" ++ ", ".intercalate (quotedFields fields) ++ "\x7d"

def quotedItems : List Value → List String
  | [] => []
  | item :: rest => quotedText item (printedText item) :: quotedItems rest

def quotedFields : List (String × Value) → List String
  | [] => []
  | (key, value) :: rest =>
    ("\"" ++ key ++ "\": " ++ quotedText value (printedText value)) :: quotedFields rest

end

def truth : Value → Bool
  | .null => false
  | .bool b => b
  | .number n => n != 0
  | .text s => !s.isEmpty
  | .list items => !items.isEmpty
  | .record fields => !fields.isEmpty

def test (line : Nat) (item : Item) : Rendering Bool := truth <$> defined line item

def charItems (s : String) : List Value := s.toList.map fun c => .text (String.singleton c)

/-- What a loop goes through: the items of a list, the characters of a text, the names of the
fields of a record. -/
def items (line : Nat) : Value → Rendering (List Value)
  | .list items => .ok items
  | .text s => .ok (charItems s)
  | .record fields => .ok (fields.map fun field => .text field.1)
  | _ => .error (.wrongKind line)

def fromEnd {α : Type} (items : List α) (position : Nat) : Option α :=
  if position = 0 then items.head? else items.reverse[position - 1]?

def lookIn (whole : Value) : Value → Item
  | .text key => whole.field? key
  | .number n =>
    match whole with
    | .list items => items[n]?
    | .text s => (charItems s)[n]?
    | _ => none
  | _ => none

def lookFromEnd (position : Nat) : Value → Item
  | .list items => fromEnd items position
  | .text s => fromEnd (charItems s) position
  | _ => none

def between {α : Type} (start : Nat) (stop : Option Nat) (items : List α) : List α :=
  match stop with
  | some stop => (items.take stop).drop start
  | none => items.drop start

def sliced (line start : Nat) (stop : Option Nat) : Value → Rendering Value
  | .list items => .ok (.list (between start stop items))
  | .text s => .ok (.text (String.ofList (between start stop s.toList)))
  | _ => .error (.wrongKind line)

def afterPattern? : List Char → List Char → Option (List Char)
  | [], chars => some chars
  | p :: pattern, c :: chars => if p == c then afterPattern? pattern chars else none
  | _ :: _, [] => none

/-- Puts a replacement in the place of every occurrence of a pattern, from the left. An empty
pattern occurs before every character and at the end. `skip` counts the characters that belong to
an occurrence found before. -/
def replaceAll (pattern replacement : List Char) : Nat → List Char → List Char
  | _, [] => if pattern.isEmpty then replacement else []
  | skip + 1, _ :: chars => replaceAll pattern replacement skip chars
  | 0, c :: chars =>
    if pattern.isEmpty then replacement ++ c :: replaceAll pattern replacement 0 chars
    else if (afterPattern? pattern (c :: chars)).isSome then
      replacement ++ replaceAll pattern replacement (pattern.length - 1) chars
    else c :: replaceAll pattern replacement 0 chars

def replaced (pattern replacement text : String) : String :=
  String.ofList (replaceAll pattern.toList replacement.toList 0 text.toList)

/-- The parameters of a macro with the arguments of a call; what is not given is undefined. -/
def bindArguments : List String → List Item → Scope
  | [], _ => []
  | parameter :: rest, [] => (parameter, none) :: bindArguments rest []
  | parameter :: rest, argument :: others => (parameter, argument) :: bindArguments rest others

def loopRecord (index length : Nat) : Value :=
  .record [
    ("index", .number (index + 1)),
    ("index0", .number index),
    ("first", .bool (index == 0)),
    ("last", .bool (index + 1 == length)),
    ("length", .number length)]

/-- Runs a body for every item of a list; what the body sets is seen by its next run. -/
def forEach (name : String) (length : Nat) (body : Env → Rendering (String × Env)) :
    Nat → List Value → Env → Rendering String
  | _, [], _ => .ok ""
  | index, item :: rest, env => do
    let env := (env.set "loop" (some (loopRecord index length))).set name (some item)
    let (printed, env) ← body env
    return printed ++ (← forEach name length body (index + 1) rest env)

def keepItems (condition : Value → Rendering Bool) : List Value → Rendering (List Value)
  | [] => .ok []
  | item :: rest => do
    let kept ← condition item
    let others ← keepItems condition rest
    return if kept then item :: others else others

mutual

def evaluate : Expr → Nat → Env → Rendering Item
  | .constant value, _, _ => .ok (some value)
  | .variable name, _, env => .ok (env.get name)
  | .field record key, line, env => do
    return (← defined line (← evaluate record line env)).field? key
  | .item whole key, line, env => do
    let value ← defined line (← evaluate whole line env)
    match ← evaluate key line env with
    | some key => return lookIn value key
    | none => return none
  | .itemFromEnd whole position, line, env => do
    return lookFromEnd position (← defined line (← evaluate whole line env))
  | .slice whole start stop, line, env => do
    some <$> sliced line start stop (← defined line (← evaluate whole line env))
  | .upper text, line, env => do
    let value ← defined line (← evaluate text line env)
    return some (.text (Text.upper (printedText value)))
  | .lower text, line, env => do
    let value ← defined line (← evaluate text line env)
    return some (.text (Text.lower (printedText value)))
  | .replace text pattern replacement, line, env => do
    let value ← defined line (← evaluate text line env)
    let pattern ← defined line (← evaluate pattern line env)
    let replacement ← defined line (← evaluate replacement line env)
    return some (.text
      (replaced (printedText pattern) (printedText replacement) (printedText value)))
  | .equal left right, line, env => do
    let left ← evaluate left line env
    let right ← evaluate right line env
    return some (.bool (left == right))
  | .negation condition, line, env => do
    return some (.bool (!(← test line (← evaluate condition line env))))
  | .both left right, line, env => do
    let item ← evaluate left line env
    if ← test line item then evaluate right line env else return item
  | .either left right, line, env => do
    let item ← evaluate left line env
    if ← test line item then return item else evaluate right line env
  | .choice condition yes no, line, env => do
    if ← test line (← evaluate condition line env) then evaluate yes line env
    else evaluateOption no line env
  | .call macroName parameters body arguments, line, env => do
    match env.macros.lookup macroName with
    | none => throw (.wrongKind line)
    | some scope =>
      let arguments ← evaluateAll arguments line env
      let (printed, _) ←
        renderParts body { env with bindings := bindArguments parameters arguments ++ scope }
      return some (.text printed)

def evaluateOption : Option Expr → Nat → Env → Rendering Item
  | some expr, line, env => evaluate expr line env
  | none, _, _ => .ok none

def evaluateAll : List Expr → Nat → Env → Rendering (List Item)
  | [], _, _ => .ok []
  | expr :: rest, line, env => do
    return (← evaluate expr line env) :: (← evaluateAll rest line env)

def holds : Option Expr → Nat → Env → Rendering Bool
  | some condition, line, env => do test line (← evaluate condition line env)
  | none, _, _ => .ok true

def renderPart : Part → Env → Rendering (String × Env)
  | .plain chars, env => .ok (String.ofList chars, env)
  | .print line expr, env => do
    return (printedText (← defined line (← evaluate expr line env)), env)
  | .branch line condition yes no, env => do
    if ← test line (← evaluate condition line env) then renderParts yes env
    else renderParts no env
  | .each line name expr condition body, env => do
    let all ← items line (← defined line (← evaluate expr line env))
    let kept ← keepItems (fun item => holds condition line (env.set name (some item))) all
    return (← forEach name kept.length (renderParts body) 0 kept env, env)
  | .assign line name expr, env => do
    return ("", env.set name (← evaluate expr line env))
  | .define macroName, env => .ok ("", env.define macroName)

def renderParts : List Part → Env → Rendering (String × Env)
  | [], env => .ok ("", env)
  | part :: rest, env => do
    let (printed, env) ← renderPart part env
    let (others, env) ← renderParts rest env
    return (printed ++ others, env)

end

/-- What a template prints for a model. -/
def render (parts : List Part) (model : Value) : Rendering String :=
  Prod.fst <$> renderParts parts { model }

end SchemaScaffold.Template
