namespace SchemaScaffold

inductive Value where
  | null
  | bool (b : Bool)
  | number (n : Nat)
  | text (s : String)
  | list (items : List Value)
  | record (fields : List (String × Value))
  deriving Repr, Inhabited

namespace Value

def optText : Option String → Value
  | some s => text s
  | none => null

def optNumber : Option Nat → Value
  | some n => number n
  | none => null

def texts (items : List String) : Value := list (items.map text)

def field? (key : String) : Value → Option Value
  | record fields => fields.lookup key
  | _ => none

mutual

def same : Value → Value → Bool
  | null, null => true
  | bool a, bool b => a == b
  | number m, number n => m == n
  | text s, text t => s == t
  | list items, list others => sameItems items others
  | record fields, record others => sameFields fields others
  | _, _ => false

def sameItems : List Value → List Value → Bool
  | [], [] => true
  | a :: as, b :: bs => same a b && sameItems as bs
  | _, _ => false

def sameFields : List (String × Value) → List (String × Value) → Bool
  | [], [] => true
  | (k, a) :: as, (l, b) :: bs => k == l && same a b && sameFields as bs
  | _, _ => false

end

instance : BEq Value := ⟨same⟩

end Value

end SchemaScaffold
