import DocSpace.Proofs.Named
import DocSpace.Proofs.Success
import DocSpace.Signature

set_option autoImplicit false

namespace DocSpace.Signature

variable {α : Type} {s : Signature} {m m' : Matched α} {named : Named α} {e : String × α}

theorem mem_of_takeNamed {argument : String × α} (run : s.takeNamed m argument = .ok m')
    (member : e ∈ m'.values) : e ∈ m.values ∨ e = argument := by
  unfold takeNamed at run
  split at run
  · split at run
    · cases run
    · obtain rfl := Except.ok.inj run
      exact (List.mem_append.mp member).imp_right List.mem_singleton.mp
  · split at run
    · obtain rfl := Except.ok.inj run
      exact Or.inl member
    · cases run

theorem mem_of_foldlM (run : named.foldlM s.takeNamed m = .ok m') (member : e ∈ m'.values) :
    e ∈ m.values ∨ e ∈ named := by
  induction named generalizing m with
  | nil =>
      obtain rfl := Except.ok.inj run
      exact Or.inl member
  | cons argument named ih =>
      rw [List.foldlM_cons] at run
      obtain ⟨next, first, rest⟩ := bind_eq_ok.mp run
      rcases ih rest with old | new
      · rcases mem_of_takeNamed first old with old | rfl
        · exact Or.inl old
        · exact Or.inr List.mem_cons_self
      · exact Or.inr (List.mem_cons_of_mem argument new)

/-- What is matched was given, by position or by name, and nothing is missing. -/
theorem assign_eq_ok {arguments : List α} (run : s.assign arguments named = .ok m) :
    (∀ e ∈ m.values, e ∈ s.positional.zip arguments ∨ e ∈ named) ∧
      ∀ n ∈ s.required, m.values.contains n = true := by
  unfold assign at run
  obtain ⟨taken, fold, run⟩ := bind_eq_ok.mp run
  have settled : taken = m ∧
      s.required.filter (fun n => !taken.values.contains n) = [] := by
    by_cases many : s.positional.length < arguments.length
    · simp only [many, ↓reduceIte] at run
      cases run
    · simp only [many, ↓reduceIte] at run
      split at run
      · next nothing => exact ⟨Except.ok.inj run, nothing⟩
      · cases run
  obtain ⟨rfl, nothing⟩ := settled
  refine ⟨fun e member => mem_of_foldlM fold member, fun n required => ?_⟩
  have kept := List.filter_eq_nil_iff.mp nothing n required
  simpa only [Bool.not_eq_true', Bool.not_eq_false] using kept

end DocSpace.Signature
