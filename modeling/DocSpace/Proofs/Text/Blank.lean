import DocSpace.Text.Blank
import Mathlib.Data.List.DropRight

set_option autoImplicit false

namespace DocSpace.Text

structure IsTrimmed (cs : List Char) : Prop where
  first : ∀ c, cs.head? = some c → isBlank c = false
  last : ∀ c, cs.getLast? = some c → isBlank c = false

variable {cs : List Char}

theorem not_isBlank_of_head?_trimStart {c : Char} (first : (trimStart cs).head? = some c) :
    isBlank c = false := by
  have kept := List.head?_dropWhile_not isBlank cs
  rw [show cs.dropWhile isBlank = trimStart cs from rfl, first] at kept
  exact kept

theorem isPrefix_trimEnd (cs : List Char) : trimEnd cs <+: cs := List.rdropWhile_prefix isBlank cs

theorem isInfix_trim (cs : List Char) : trim cs <:+: cs :=
  (isPrefix_trimEnd (trimStart cs)).isInfix.trans (List.dropWhile_suffix isBlank).isInfix

theorem isTrimmed_trim (cs : List Char) : IsTrimmed (trim cs) where
  first := by
    intro c first
    obtain ⟨rest, whole⟩ := isPrefix_trimEnd (trimStart cs)
    have same : (trimStart cs).head? = some c := by
      rw [← whole, List.head?_append, show (trimEnd (trimStart cs)).head? = some c from first]
      rfl
    exact not_isBlank_of_head?_trimStart same
  last := by
    intro c last
    rw [trim, trimEnd, List.getLast?_reverse] at last
    exact not_isBlank_of_head?_trimStart last

theorem trimStart_eq_self (first : ∀ c, cs.head? = some c → isBlank c = false) :
    trimStart cs = cs := by
  cases cs with
  | nil => rfl
  | cons c cs => rw [trimStart, List.dropWhile_cons, first c rfl, if_neg Bool.false_ne_true]

theorem trimEnd_eq_self (last : ∀ c, cs.getLast? = some c → isBlank c = false) :
    trimEnd cs = cs := by
  have reversed : trimStart cs.reverse = cs.reverse :=
    trimStart_eq_self fun c first => last c (by rw [← List.head?_reverse, first])
  exact List.reverse_eq_iff.mpr reversed

/-- What has no white space at its ends is left as it is. -/
theorem IsTrimmed.trim_eq (trimmed : IsTrimmed cs) : trim cs = cs := by
  rw [trim, trimStart_eq_self trimmed.first, trimEnd_eq_self trimmed.last]

end DocSpace.Text
