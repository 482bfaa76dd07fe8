import DocSpace.Http.Address
import DocSpace.Http.Redirect
import DocSpace.Proofs.Redaction.Key
import DocSpace.Proofs.Text.Digit

set_option autoImplicit false

namespace DocSpace.Http

open Text Redaction

variable {isSafe : Char → Bool}

theorem ampersand_not_mem_percent (c : Char) : '&' ∉ percent c := by
  intro member
  obtain ⟨b, _, digits⟩ := List.mem_flatMap.mp member
  rcases List.mem_cons.mp digits with mark | digits
  · exact absurd mark (by decide)
  · obtain ⟨d, digit, upper⟩ := List.mem_map.mp digits
    obtain ⟨n, small, rfl⟩ := digit_of_mem_hexDigits digit
    have other : ∀ n < 16, (hexDigit n).toUpper ≠ '&' := by decide
    exact other n small upper

theorem escape_cons_of_safe {c : Char} (safe : isSafe c = true) (cs : List Char) :
    escape isSafe (c :: cs) = c :: escape isSafe cs := by
  simp only [escape, List.flatMap_cons, safe, ↓reduceIte, List.cons_append, List.nil_append]

theorem escape_eq_self {cs : List Char} (safe : ∀ c ∈ cs, isSafe c = true) :
    escape isSafe cs = cs := by
  induction cs with
  | nil => rfl
  | cons c cs ih =>
      rw [escape_cons_of_safe (safe c List.mem_cons_self),
        ih fun d hd => safe d (List.mem_cons_of_mem c hd)]

theorem escape_ne_nil {cs : List Char} (filled : cs ≠ []) :
    escape isSafe cs ≠ [] := by
  obtain ⟨c, rest, rfl⟩ := List.exists_cons_of_ne_nil filled
  rw [escape, List.flatMap_cons]
  intro empty
  have first := (List.append_eq_nil_iff.mp empty).1
  split at first
  · exact List.cons_ne_nil _ _ first
  · obtain ⟨b, bytes, split⟩ := List.exists_cons_of_ne_nil (String.utf8EncodeChar_ne_nil (c := c))
    rw [percent, split, List.flatMap_cons] at first
    exact List.cons_ne_nil _ _ (List.append_eq_nil_iff.mp first).1

theorem keyMark_isQuerySafe : ∀ c ∈ keyMark, isQuerySafe c = true := List.all_eq_true.mp rfl

theorem keyMark_isFragmentSafe : ∀ c ∈ keyMark, isFragmentSafe c = true :=
  List.all_eq_true.mp rfl

theorem twins_escape {cs ds : List Char} (twins : Twins cs ds)
    (safe : ∀ c ∈ keyMark, isSafe c = true) :
    Twins (escape isSafe cs) (escape isSafe ds) := by
  refine twins.flatMap (escape_eq_self safe) fun c other => ?_
  split
  · exact fun member => other (List.mem_singleton.mp member).symm
  · exact ampersand_not_mem_percent c

theorem percentDecode_ne_nil {other : Char → List UInt8} (some_byte : ∀ c, other c ≠ [])
    {cs : List Char} (filled : cs ≠ []) : percentDecode other cs ≠ [] := by
  fun_cases percentDecode other cs with
  | case1 => exact absurd rfl filled
  | case2 c => exact some_byte c
  | case3 c d => exact fun empty => some_byte c (List.append_eq_nil_iff.mp empty).1
  | case4 => exact List.cons_ne_nil _ _
  | case5 c => exact fun empty => some_byte c (List.append_eq_nil_iff.mp empty).1

theorem replaceFrom_ne_nil (e : Encoding) (fuel : Nat) (b : UInt8) (bs : List UInt8) :
    e.replaceFrom (fuel + 1) (b :: bs) ≠ [] := by
  simp only [Encoding.replaceFrom]
  split <;> exact List.cons_ne_nil _ _

theorem fragmentText_ne_nil {fragment : List Char} (filled : fragment ≠ []) :
    fragmentText fragment ≠ [] := by
  have bytes : percentDecode String.utf8EncodeChar fragment ≠ [] :=
    percentDecode_ne_nil (fun _ => String.utf8EncodeChar_ne_nil) filled
  obtain ⟨b, bs, split⟩ := List.exists_cons_of_ne_nil bytes
  rw [fragmentText, Encoding.decodeReplacing, String.toList_ofList, split, List.length_cons]
  exact replaceFrom_ne_nil _ _ b bs

end DocSpace.Http
