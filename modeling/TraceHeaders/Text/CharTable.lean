namespace TraceHeaders.Text

/-- Ranges of code points, both ends included, in increasing order. -/
abbrev CharTable := List (Nat × Nat)

def CharTable.contains (table : CharTable) (c : Char) : Bool :=
  table.any fun (first, last) => first ≤ c.toNat && c.toNat ≤ last

end TraceHeaders.Text
