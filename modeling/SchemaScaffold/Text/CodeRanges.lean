namespace SchemaScaffold.Text

abbrev CodeRanges := List (Nat × Nat)

def CodeRanges.contains (ranges : CodeRanges) (c : Char) : Bool :=
  ranges.any fun r => r.1 ≤ c.toNat && c.toNat ≤ r.2

/-- Every `stride`-th code point from `first` to `last`. -/
structure StridedRange where
  first : Nat
  last : Nat
  stride : Nat

def StridedRange.contains (range : StridedRange) (c : Char) : Bool :=
  range.first ≤ c.toNat && c.toNat ≤ range.last && (c.toNat - range.first) % range.stride == 0

end SchemaScaffold.Text
