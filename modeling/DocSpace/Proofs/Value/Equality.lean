import DocSpace.Value.Equality

set_option autoImplicit false

namespace DocSpace.Value

theorem same_text (s t : String) : (text s).same (text t) = (s == t) := by
  simp only [same, sameAtom, numeric?, asText?]

theorem isText_eq_same (v : Value) (s : String) : v.isText s = v.same (text s) := by
  cases v <;> simp [isText, asText?, same, sameAtom, numeric?]

end DocSpace.Value
