/-!
# Texts from bytes

Bytes are read as UTF-8 one after the other. Where a byte cannot go on a character that has begun,
one replacement character stands for what there is of it, and the byte is read as the start of
another one.
-/

namespace SchemaScaffold.Text

def replacement : Char := '\uFFFD'

/-- A character that has begun: the number that its bytes make so far, the bounds of the byte that
comes next, and how many more there are behind that one. -/
structure Begun where
  number : Nat
  low : Nat
  high : Nat
  more : Nat
  deriving DecidableEq, Repr

/-- What a byte beyond ASCII begins. The bounds of the next byte leave out the numbers that have fewer
bytes, the surrogates and those that are too large. -/
def Begun.ofLead? (byte : Nat) : Option Begun :=
  if 0xC2 ≤ byte ∧ byte ≤ 0xDF then some ⟨byte - 0xC0, 0x80, 0xBF, 0⟩
  else if byte = 0xE0 then some ⟨0, 0xA0, 0xBF, 1⟩
  else if byte = 0xED then some ⟨0xD, 0x80, 0x9F, 1⟩
  else if 0xE1 ≤ byte ∧ byte ≤ 0xEF then some ⟨byte - 0xE0, 0x80, 0xBF, 1⟩
  else if byte = 0xF0 then some ⟨0, 0x90, 0xBF, 2⟩
  else if 0xF1 ≤ byte ∧ byte ≤ 0xF3 then some ⟨byte - 0xF0, 0x80, 0xBF, 2⟩
  else if byte = 0xF4 then some ⟨4, 0x80, 0x8F, 2⟩
  else none

def decodeLead (byte : Nat) : List Char × Option Begun :=
  if byte < 0x80 then ([Char.ofNat byte], none)
  else
    match Begun.ofLead? byte with
    | some begun => ([], some begun)
    | none => ([replacement], none)

def decodeNext : Option Begun → Nat → List Char × Option Begun
  | none, byte => decodeLead byte
  | some begun, byte =>
    if begun.low ≤ byte ∧ byte ≤ begun.high then
      let number := 64 * begun.number + (byte - 0x80)
      match begun.more with
      | 0 => ([Char.ofNat number], none)
      | more + 1 => ([], some ⟨number, 0x80, 0xBF, more⟩)
    else (replacement :: (decodeLead byte).1, (decodeLead byte).2)

def decodeFrom : Option Begun → List UInt8 → List Char
  | none, [] => []
  | some _, [] => [replacement]
  | begun, byte :: rest =>
    (decodeNext begun byte.toNat).1 ++ decodeFrom (decodeNext begun byte.toNat).2 rest

def decode (bytes : List UInt8) : String := String.ofList (decodeFrom none bytes)

end SchemaScaffold.Text
