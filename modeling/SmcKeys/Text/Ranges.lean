namespace SmcKeys.Text

def within (ranges : Array (Nat × Nat)) (c : Char) : Bool :=
  ranges.any fun range => decide (range.1 ≤ c.toNat) && decide (c.toNat ≤ range.2)

end SmcKeys.Text
