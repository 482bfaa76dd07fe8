import DocSpace.Proofs.Value.Within

set_option autoImplicit false

namespace DocSpace

namespace Value

mutual

def isStringKeyed : Value → Bool
  | list vs | tuple vs => areStringKeyed vs
  | dict es => entriesStringKeyed es
  | record _ fs => fieldsStringKeyed fs
  | _ => true

def areStringKeyed : List Value → Bool
  | [] => true
  | v :: vs => isStringKeyed v && areStringKeyed vs

def entriesStringKeyed : List (Value × Value) → Bool
  | [] => true
  | (k, v) :: es => k.asText?.isSome && isStringKeyed v && entriesStringKeyed es

def fieldsStringKeyed : List (String × Value) → Bool
  | [] => true
  | (_, v) :: fs => isStringKeyed v && fieldsStringKeyed fs

end

theorem areStringKeyed_of_forall {vs : List Value} (each : ∀ v ∈ vs, v.isStringKeyed = true) :
    areStringKeyed vs = true := by
  induction vs with
  | nil => rfl
  | cons v vs ih =>
      obtain ⟨own, others⟩ := List.forall_mem_cons.mp each
      rw [areStringKeyed, own, ih others]
      rfl

theorem entriesStringKeyed_of_named {fs : List (String × Value)}
    (each : ∀ f ∈ fs, f.2.isStringKeyed = true) :
    entriesStringKeyed (fs.map fun f => (text f.1, f.2)) = true := by
  induction fs with
  | nil => rfl
  | cons f fs ih =>
      obtain ⟨own, others⟩ := List.forall_mem_cons.mp each
      simp only [List.map_cons, entriesStringKeyed, own, ih others]
      rfl

theorem isStringKeyed_of_mem {vs : List Value} (keyed : areStringKeyed vs = true) {v : Value}
    (member : v ∈ vs) : v.isStringKeyed = true := by
  induction vs with
  | nil => exact absurd member List.not_mem_nil
  | cons w vs ih =>
      obtain ⟨own, others⟩ := (Bool.and_eq_true _ _).mp keyed
      rcases List.mem_cons.mp member with rfl | later
      · exact own
      · exact ih others later

theorem of_mem_entriesStringKeyed {es : List (Value × Value)} (keyed : entriesStringKeyed es = true)
    {k v : Value} (member : (k, v) ∈ es) : k.asText?.isSome = true ∧ v.isStringKeyed = true := by
  induction es with
  | nil => exact absurd member List.not_mem_nil
  | cons e es ih =>
      obtain ⟨own, others⟩ := (Bool.and_eq_true _ _).mp keyed
      rcases List.mem_cons.mp member with rfl | later
      · exact (Bool.and_eq_true _ _).mp own
      · exact ih others later

theorem isStringKeyed_of_within {v w : Value} (inside : Within w v)
    (keyed : v.isStringKeyed = true) : w.isStringKeyed = true := by
  induction inside with
  | self => exact keyed
  | list member _ ih | tuple member _ ih => exact ih (isStringKeyed_of_mem keyed member)
  | dict member _ ih => exact ih (of_mem_entriesStringKeyed keyed member).2

theorem isStringKeyed_of_lookup {fs : List (String × Value)} {name : String} {v : Value}
    (keyed : fieldsStringKeyed fs = true) (found : fs.lookup name = some v) :
    v.isStringKeyed = true := by
  induction fs with
  | nil => cases found
  | cons f fs ih =>
      obtain ⟨own, others⟩ := (Bool.and_eq_true _ _).mp keyed
      rw [List.lookup_cons] at found
      split at found
      · exact Option.some.inj found ▸ own
      · exact ih others found

end Value

end DocSpace
