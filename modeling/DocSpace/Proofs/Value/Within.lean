import DocSpace.Value.Basic

set_option autoImplicit false

namespace DocSpace.Value

/-- The value itself, and what its items or the values of its entries hold. -/
inductive Within (w : Value) : Value → Prop where
  | self : Within w w
  | list {vs : List Value} {v : Value} (member : v ∈ vs) (inside : Within w v) :
      Within w (list vs)
  | tuple {vs : List Value} {v : Value} (member : v ∈ vs) (inside : Within w v) :
      Within w (tuple vs)
  | dict {es : List (Value × Value)} {e : Value × Value} (member : e ∈ es)
      (inside : Within w e.2) : Within w (dict es)

end DocSpace.Value
