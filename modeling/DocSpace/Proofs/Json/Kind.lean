import DocSpace.Json.Decode
import DocSpace.Proofs.Success

set_option autoImplicit false

namespace DocSpace.Json

inductive IsDocument : Value → Prop where
  | null : IsDocument .null
  | bool (b : Bool) : IsDocument (.bool b)
  | int (i : Int) : IsDocument (.int i)
  | double (d : Double) : IsDocument (.double d)
  | text (s : String) : IsDocument (.text s)
  | list (vs : List Value) : IsDocument (.list vs)
  | dict (es : Entries) : IsDocument (.dict es)

theorem isDocument_readWord {cs rest : List Char} {v : Value}
    (read : readWord? cs = some (v, rest)) : IsDocument v := by
  have single : ∀ w ∈ words, IsDocument w.2 := by
    simp only [words, List.forall_mem_cons]
    exact ⟨.null, .bool true, .bool false, .double _, .double _, .double _, nofun⟩
  obtain ⟨w, found, same⟩ := Option.map_eq_some_iff.mp read
  rw [← (Prod.mk.inj same).1]
  exact single w (List.mem_of_find?_eq_some found)

theorem isDocument_numeral (n : Numeral) : IsDocument n.value := by
  unfold Numeral.value
  split
  · exact .int _
  · exact .double _

theorem isDocument_readAtom {cs rest : List Char} {v : Value}
    (read : readAtom cs = .ok (v, rest)) : IsDocument v := by
  unfold readAtom at read
  split at read
  · next r word =>
      rw [Except.ok.inj read] at word
      exact isDocument_readWord word
  · split at read
    · next n _ _ =>
        split at read
        · cases read
        · rw [← (Prod.mk.inj (Except.ok.inj read)).1]
          exact isDocument_numeral n
    · cases read

theorem isDocument_readValue {room fuel : Nat} {cs rest : List Char} {v : Value}
    (read : readValue room fuel cs = .ok (v, rest)) : IsDocument v := by
  have taken {w : Value} {cs' : List Char} (own : IsDocument w)
      (same : Except.ok (ε := Refusal) (w, cs') = .ok (v, rest)) : IsDocument v := by
    rw [← (Prod.mk.inj (Except.ok.inj same)).1]
    exact own
  cases fuel with
  | zero =>
      rw [readValue] at read
      cases read
  | succ fuel =>
      unfold readValue at read
      split at read
      · obtain ⟨_, _, read⟩ := bind_eq_ok.mp read
        exact taken (.text _) read
      · split at read
        · cases read
        · split at read
          · exact taken (.list []) read
          · obtain ⟨_, _, read⟩ := bind_eq_ok.mp read
            exact taken (.list _) read
      · split at read
        · cases read
        · split at read
          · exact taken (.dict []) read
          · obtain ⟨_, _, read⟩ := bind_eq_ok.mp read
            exact taken (.dict _) read
      · exact isDocument_readAtom read

theorem isDocument_decodeBytes {bs : List UInt8} {v : Value} (read : decodeBytes bs = .ok v) :
    IsDocument v := by
  obtain ⟨_, _, read⟩ := bind_eq_ok.mp read
  obtain ⟨⟨w, rest⟩, value, read⟩ := bind_eq_ok.mp (mapError_eq_ok.mp read)
  dsimp only at read
  split at read
  · rw [← Except.ok.inj read]
    exact isDocument_readValue value
  · cases read

end DocSpace.Json
