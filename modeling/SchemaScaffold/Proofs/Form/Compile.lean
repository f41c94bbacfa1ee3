import SchemaScaffold.Proofs.Form.Basic
import SchemaScaffold.Template.Parser

/-!
# From templates to forms

A template is followed with what is known of its names in place of their values. There is no form
when it uses anything that is not known to be defined, so a template with a form renders for every
project and every table.
-/

namespace SchemaScaffold.Form

open Template (Expr Part)

/-- What is known of the values of names. A name whose value is not known hides the model. -/
abbrev Bindings := List (String × Option Known)

structure Names where
  scope : Scope
  bindings : Bindings := []
  macros : List (String × Bindings) := []

namespace Names

def get (names : Names) (name : String) : Option Known :=
  match names.bindings.lookup name with
  | some known => known
  | none => (Known.model names.scope).field? name

def set (names : Names) (name : String) (known : Known) : Names :=
  { names with bindings := (name, some known) :: names.bindings }

def define (names : Names) (macroName : String) : Names :=
  { names with macros := (macroName, names.bindings) :: names.macros }

def forgotten (bindings : Bindings) : Bindings := bindings.map fun binding => (binding.1, none)

/-- What stays known inside a repetition: variables set outside are not looked at there. -/
def forget (names : Names) : Names where
  scope := names.scope
  bindings := forgotten names.bindings
  macros := names.macros.map fun entry => (entry.1, forgotten entry.2)

def inside (names : Names) (name : String) (item : Known) : Names :=
  (names.forget.set "loop" .loop).set name item

end Names

def bindParameters : List String → List Known → Bindings
  | [], _ => []
  | parameter :: rest, [] => (parameter, none) :: bindParameters rest []
  | parameter :: rest, argument :: others => (parameter, some argument) :: bindParameters rest others

def Known.term? : Known → Option Term
  | scalar term => some term
  | _ => none

def Known.item? : Known → Option Known
  | columns => some .columnRecord
  | imports => some (.ofDatum .imported)
  | _ => none

/-- The repetition of a body for the items of a list that a condition holds for. No template leaves
out an import. -/
def Known.repeated? : Known → Term → List Piece → Option Piece
  | columns, keep, body => some (.forColumns keep body)
  | imports, .constant (.bool true), body => some (.forImports body)
  | _, _, _ => none

/-- The term of a text that is the same as that of some pieces. -/
def joinedTerm? : List Piece → Option Term
  | [] => some (.constant (.text ""))
  | .plain chars :: rest =>
    (joinedTerm? rest).map (.joined (.constant (.text (String.ofList chars))))
  | .print term :: rest => (joinedTerm? rest).map (.joined term)
  | _ => none

mutual

def keepsNames : Part → Bool
  | .assign .. | .define _ => false
  | .branch _ _ yes no => allKeepNames yes && allKeepNames no
  | _ => true

def allKeepNames : List Part → Bool
  | [] => true
  | part :: rest => keepsNames part && allKeepNames rest

end

mutual

def ofExpr : Expr → Names → Option Known
  | .constant value, _ => some (.scalar (.constant value))
  | .variable name, names => names.get name
  | .field record key, names => do (← ofExpr record names).field? key
  | .slice text start stop, names => do
    let text ← (← ofExpr text names).term?
    if text.isText then some (.scalar (.slice text start stop)) else none
  | .upper text, names => do
    return .scalar (.upper (← (← ofExpr text names).term?))
  | .lower text, names => do
    return .scalar (.lower (← (← ofExpr text names).term?))
  | .replace text pattern replacement, names => do
    let text ← (← ofExpr text names).term?
    let pattern ← (← ofExpr pattern names).term?
    let replacement ← (← ofExpr replacement names).term?
    return .scalar (.replace text pattern replacement)
  | .equal left right, names => do
    let left ← (← ofExpr left names).term?
    let right ← (← ofExpr right names).term?
    return .scalar (.equal left right)
  | .negation condition, names => do
    return .scalar (.negation (← (← ofExpr condition names).term?))
  | .both left right, names => do
    let left ← (← ofExpr left names).term?
    let right ← (← ofExpr right names).term?
    return .scalar (.choice left right left)
  | .either left right, names => do
    let left ← (← ofExpr left names).term?
    let right ← (← ofExpr right names).term?
    return .scalar (.choice left left right)
  | .choice condition yes (some no), names => do
    let condition ← (← ofExpr condition names).term?
    let yes ← (← ofExpr yes names).term?
    let no ← (← ofExpr no names).term?
    return .scalar (.choice condition yes no)
  | .call macroName parameters body arguments, names => do
    let seen ← names.macros.lookup macroName
    let arguments ← ofExprs arguments names
    let (pieces, _) ←
      ofParts body { names with bindings := bindParameters parameters arguments ++ seen }
    return .scalar (← joinedTerm? pieces)
  | .item .., _ | .itemFromEnd .., _ | .choice _ _ none, _ => none

def ofExprs : List Expr → Names → Option (List Known)
  | [], _ => some []
  | expr :: rest, names => do return (← ofExpr expr names) :: (← ofExprs rest names)

def ofCondition : Option Expr → Names → Option Term
  | some condition, names => do (← ofExpr condition names).term?
  | none, _ => some (.constant (.bool true))

def ofPart : Part → Names → Option (List Piece × Names)
  | .plain chars, names => some ([.plain chars], names)
  | .print _ expr, names => do
    let term ← (← ofExpr expr names).term?
    return ([.print term], names)
  | .branch _ condition yes no, names =>
    if allKeepNames yes && allKeepNames no then do
      let condition ← (← ofExpr condition names).term?
      let (yes, _) ← ofParts yes names
      let (no, _) ← ofParts no names
      return ([.branch condition yes no], names)
    else none
  | .each _ name items condition body, names =>
    if allKeepNames body then do
      let items ← ofExpr items names
      let item ← items.item?
      let keep ← ofCondition condition (names.forget.set name item)
      let (body, _) ← ofParts body (names.inside name item)
      return ([← items.repeated? keep body], names)
    else none
  | .assign _ name expr, names => do
    return ([], names.set name (← ofExpr expr names))
  | .define macroName, names => some ([], names.define macroName)

def ofParts : List Part → Names → Option (List Piece × Names)
  | [], names => some ([], names)
  | part :: rest, names => do
    let (pieces, names) ← ofPart part names
    let (others, names) ← ofParts rest names
    return (pieces ++ others, names)

end

def ofChars? (scope : Scope) (chars : List Char) : Option (List Piece) := do
  let parts ← Template.parse? chars
  let (pieces, _) ← ofParts parts { scope }
  return pieces

end SchemaScaffold.Form
