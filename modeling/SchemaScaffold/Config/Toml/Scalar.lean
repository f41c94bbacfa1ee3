import SchemaScaffold.Config.Datum
import SchemaScaffold.Text.Blank

namespace SchemaScaffold.Config.Toml

/-- Digits to some base, underscores between them left out. A digit stands at each end and on both
sides of every underscore. -/
def separatedDigits (isDigit : Char → Bool) : List Char → Option (List Char)
  | [] => none
  | [c] => if isDigit c then some [c] else none
  | c :: '_' :: rest =>
    if isDigit c then (separatedDigits isDigit rest).map (c :: ·) else none
  | c :: rest => if isDigit c then (separatedDigits isDigit rest).map (c :: ·) else none

def hexValue (c : Char) : Nat := if c.isDigit then Text.digitValue c else c.toLower.toNat - 87

def isHexDigit (c : Char) : Bool :=
  c.isDigit || ('a' ≤ c && c ≤ 'f') || ('A' ≤ c && c ≤ 'F')

def isDigitTo (base : Nat) (c : Char) : Bool := c.isDigit && Text.digitValue c < base

def baseNumber (base : Nat) (digits : List Char) : Nat :=
  digits.foldl (fun n c => base * n + hexValue c) 0

def integer? (n : Int) : Option Datum :=
  if -Int.pow 2 63 ≤ n && n < Int.pow 2 63 then some (.integer n) else none

def splitSign : List Char → Bool × List Char
  | '-' :: rest => (true, rest)
  | '+' :: rest => (false, rest)
  | chars => (false, chars)

def decimalDigits (chars : List Char) : Option (List Char) :=
  match separatedDigits Char.isDigit chars with
  | some ('0' :: _ :: _) => none
  | digits => digits

def plainNotation (negative : Bool) (digits : List Char) (places : Nat) : String :=
  let padded := List.replicate (places + 1 - digits.length) '0' ++ digits
  let whole := padded.take (padded.length - places)
  let fraction := ((padded.drop (padded.length - places)).reverse.dropWhile (· == '0')).reverse
  let whole := match whole.dropWhile (· == '0') with
    | [] => ['0']
    | kept => kept
  String.ofList ((if negative then ['-'] else []) ++ whole
    ++ (if fraction.isEmpty then [] else '.' :: fraction))

def nearestInteger (negative : Bool) (digits : List Char) (places : Nat) : Int :=
  let n := Text.digitsNumber digits
  let rounded := (2 * n + Nat.pow 10 places) / (2 * Nat.pow 10 places)
  if negative then -(rounded : Int) else rounded

def maxExponent : Nat := 400

/-- A number given by its digits, how many of them stand behind the point, and the power of ten
that it is scaled by. -/
def fraction (negative : Bool) (digits : List Char) (places : Nat) (exponent : Int) : Datum :=
  let shift := (exponent - places).toNat
  let places := (places - exponent).toNat
  let digits := digits ++ List.replicate shift '0'
  .fraction (plainNotation negative digits places) (nearestInteger negative digits places)

def exponent? (chars : List Char) : Option Int :=
  let (negative, chars) := splitSign chars
  (separatedDigits Char.isDigit chars).map fun digits =>
    let n := min (Text.digitsNumber digits) maxExponent
    if negative then -(n : Int) else n

def fraction? (negative : Bool) (chars : List Char) : Option Datum := do
  let isExponentMark := fun c : Char => c == 'e' || c == 'E'
  let mantissa := chars.takeWhile fun c => !isExponentMark c
  let exponent ← match chars.dropWhile fun c => !isExponentMark c with
    | [] => some 0
    | _ :: digits => exponent? digits
  let whole ← decimalDigits (mantissa.takeWhile (· != '.'))
  match mantissa.dropWhile (· != '.') with
  | [] => return fraction negative whole 0 exponent
  | _ :: digits =>
    let digits ← separatedDigits Char.isDigit digits
    return fraction negative (whole ++ digits) digits.length exponent

def number? (chars : List Char) : Option Datum :=
  match chars with
  | '0' :: 'x' :: digits =>
    (separatedDigits isHexDigit digits).bind fun ds => integer? (baseNumber 16 ds)
  | '0' :: 'o' :: digits =>
    (separatedDigits (isDigitTo 8) digits).bind fun ds => integer? (baseNumber 8 ds)
  | '0' :: 'b' :: digits =>
    (separatedDigits (isDigitTo 2) digits).bind fun ds => integer? (baseNumber 2 ds)
  | _ =>
    let (negative, digits) := splitSign chars
    match String.ofList digits with
    | "inf" => some (.fraction (if negative then "-inf" else "inf")
        (if negative then -Int.pow 2 64 else Int.pow 2 64))
    | "nan" => some (.fraction "NaN" 0)
    | _ =>
      if digits.any fun c => c == '.' || c == 'e' || c == 'E' then fraction? negative digits
      else (decimalDigits digits).bind fun ds =>
        let n := Text.digitsNumber ds
        integer? (if negative then -(n : Int) else n)

def twoDigits? (low high : Nat) (a b : Char) : Option Nat :=
  if a.isDigit && b.isDigit then
    let n := 10 * Text.digitValue a + Text.digitValue b
    if low ≤ n && n ≤ high then some n else none
  else none

def afterDate? : List Char → Option (List Char)
  | a :: b :: c :: d :: '-' :: e :: f :: '-' :: g :: h :: rest =>
    if [a, b, c, d].all Char.isDigit && (twoDigits? 1 12 e f).isSome
        && (twoDigits? 1 31 g h).isSome then some rest
    else none
  | _ => none

def afterTime? : List Char → Option (List Char)
  | a :: b :: ':' :: c :: d :: ':' :: e :: f :: rest =>
    if (twoDigits? 0 23 a b).isSome && (twoDigits? 0 59 c d).isSome
        && (twoDigits? 0 60 e f).isSome then
      match rest with
      | '.' :: g :: rest => if g.isDigit then some (rest.dropWhile Char.isDigit) else none
      | '.' :: [] => none
      | _ => some rest
    else none
  | _ => none

def isOffset : List Char → Bool
  | [] | ['Z'] | ['z'] => true
  | [sign, a, b, ':', c, d] =>
    (sign == '+' || sign == '-') && (twoDigits? 0 23 a b).isSome && (twoDigits? 0 59 c d).isSome
  | _ => false

def moment? (chars : List Char) : Option Datum :=
  let valid := match afterDate? chars with
    | some [] => true
    | some (mark :: time) =>
      (mark == 'T' || mark == 't' || mark == ' ') && (afterTime? time).any isOffset
    | none => afterTime? chars == some []
  if valid then some (.moment (String.ofList chars)) else none

def isScalarChar (c : Char) : Bool :=
  c.isAlphanum || c == '+' || c == '-' || c == '_' || c == '.' || c == ':'

/-- Splits a plain value off the front of a text. A blank between a date and a time belongs to the
value. -/
def spanScalar (chars : List Char) : List Char × List Char :=
  let first := chars.takeWhile isScalarChar
  let rest := chars.dropWhile isScalarChar
  match rest with
  | ' ' :: after =>
    if (afterDate? first == some []) && (afterTime? after).isSome then
      (first ++ ' ' :: after.takeWhile isScalarChar, after.dropWhile isScalarChar)
    else (first, rest)
  | _ => (first, rest)

def scalar? (chars : List Char) : Option Datum :=
  match String.ofList chars with
  | "true" => some (.bool true)
  | "false" => some (.bool false)
  | _ => (number? chars).or (moment? chars)

end SchemaScaffold.Config.Toml
