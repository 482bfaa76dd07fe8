set_option autoImplicit false

namespace DocSpace.Text

/-- Ranges are closed at both ends. -/
def inRanges (table : Array (Nat × Nat)) (n : Nat) : Bool :=
  table.any fun r => r.1 ≤ n && n ≤ r.2

end DocSpace.Text
