import SchemaScaffold.Text.CaseMap
import SchemaScaffold.Text.Digits

namespace SchemaScaffold.Config

inductive Datum where
  | null
  | bool (b : Bool)
  | integer (n : Int)
  /-- A number with a fraction: in plain notation, and rounded to the nearest integer. -/
  | fraction (plain : String) (nearest : Int)
  | text (s : String)
  | moment (s : String)
  | list (items : List Datum)
  | table (fields : List (String × Datum))
  deriving Repr, Inhabited

inductive Conversion where
  | exact
  /-- A text is taken for what it spells, and plain values are taken for one another. -/
  | lenient
  deriving DecidableEq, Repr, Inhabited

namespace Datum

def toText? (conversion : Conversion) : Datum → Option String
  | text s => some s
  | bool b =>
    match conversion with
    | .exact => none
    | .lenient => some (if b then "true" else "false")
  | integer n =>
    match conversion with
    | .exact => none
    | .lenient => some (toString n)
  | fraction s _ | moment s =>
    match conversion with
    | .exact => none
    | .lenient => some s
  | null | list _ | table _ => none

def spelledBool? (s : String) : Option Bool :=
  let s := Text.lower s
  if ["1", "true", "on", "yes"].contains s then some true
  else if ["0", "false", "off", "no"].contains s then some false
  else none

def toBool? (conversion : Conversion) : Datum → Option Bool
  | bool b => some b
  | integer n =>
    match conversion with
    | .exact => none
    | .lenient => some (n != 0)
  | fraction s _ =>
    match conversion with
    | .exact => none
    | .lenient => some (s != "0" && s != "-0")
  | text s | moment s =>
    match conversion with
    | .exact => none
    | .lenient => spelledBool? s
  | null | list _ | table _ => none

def maxCount : Nat := Nat.pow 2 64 - 1

def spelledCount? (s : String) : Option Nat :=
  let word := Text.lower s
  if ["true", "on", "yes"].contains word then some 1
  else if ["false", "off", "no"].contains word then some 0
  else (Text.natural? s.toList).filter (· ≤ maxCount)

def toCount? (conversion : Conversion) : Datum → Option Nat
  | integer n => if n < 0 then none else some n.toNat
  | bool b =>
    match conversion with
    | .exact => none
    | .lenient => some b.toNat
  | fraction _ n =>
    match conversion with
    | .exact => none
    | .lenient => some (min n.toNat maxCount)
  | text s | moment s =>
    match conversion with
    | .exact => none
    | .lenient => spelledCount? s
  | null | list _ | table _ => none

end Datum

def inOrder (fields : List (String × Datum)) : List (String × Datum) :=
  fields.mergeSort fun a b => a.1 ≤ b.1

end SchemaScaffold.Config
