import DocSpace.Proofs.Success
import DocSpace.Settings.Connection

set_option autoImplicit false

namespace DocSpace.ConnectionSettings

theorem refuse_ne_ok {α : Type} (name : String) (v : Value) (reason : String) (a : α) :
    refuse name v reason ≠ .ok a := by
  intro run
  rw [refuse] at run
  obtain ⟨report, _, thrown⟩ := bind_eq_ok.mp run
  cases thrown

theorem refuse_eq_error {α : Type} {name : String} {v : Value} {reason : String} {e : Failure} :
    (refuse name v reason : Except Failure α) = .error e ↔
      ∃ r, Report.invalidSetting (.text name) v (.text reason) = .ok r ∧ e = .report r := by
  have made : ∃ r, Report.invalidSetting (.text name) v (.text reason) = .ok r := ⟨_, rfl⟩
  obtain ⟨r, own⟩ := made
  rw [refuse, own]
  constructor
  · intro run
    exact ⟨r, rfl, (Except.error.inj run).symm⟩
  · rintro ⟨_, same, rfl⟩
    obtain rfl := Except.ok.inj same
    rfl

theorem requireFilled_eq_ok {name : String} {v : Value} :
    requireFilled name v = .ok () ↔ v.truthy = true := by
  rw [requireFilled]
  split
  · next filled => exact iff_of_true rfl filled
  · next empty => exact iff_of_false (refuse_ne_ok _ _ _ _) empty

theorem requireFilled_eq_error {name : String} {v : Value} {e : Failure} :
    requireFilled name v = .error e ↔
      v.truthy = false ∧ refuse (α := Unit) name v "must not be empty" = .error e := by
  rw [requireFilled]
  split
  · next filled => exact iff_of_false nofun (by simp [filled])
  · next empty => simp [empty]

/-- Settings exist just if every check passes, and hold what they were made from. -/
theorem make_eq_ok {spaceName apiKey baseUrl timeout logLevel : Value} {s : ConnectionSettings} :
    make spaceName apiKey baseUrl timeout logLevel = .ok s ↔
      spaceName.truthy = true ∧ apiKey.truthy = true ∧ isAtMostZero timeout = .ok false ∧
        ∃ level url, levelOf logLevel = .ok level ∧ baseUrlOf baseUrl = .ok url ∧
          s = ⟨spaceName, apiKey, url, timeout, logLevel, level⟩ := by
  unfold make
  constructor
  · intro run
    obtain ⟨_, named, run⟩ := bind_eq_ok.mp run
    obtain ⟨_, keyed, run⟩ := bind_eq_ok.mp run
    obtain ⟨late, ordered, run⟩ := bind_eq_ok.mp run
    cases late with
    | true =>
        obtain ⟨_, refused, _⟩ := bind_eq_ok.mp run
        exact absurd refused (refuse_ne_ok _ _ _ _)
    | false =>
        obtain ⟨level, known, run⟩ := bind_eq_ok.mp run
        obtain ⟨url, based, same⟩ := bind_eq_ok.mp run
        exact ⟨requireFilled_eq_ok.mp named, requireFilled_eq_ok.mp keyed,
          lift_eq_ok.mp ordered, level, url, known, lift_eq_ok.mp based,
          (Except.ok.inj same).symm⟩
  · rintro ⟨named, keyed, ordered, level, url, known, based, rfl⟩
    refine bind_eq_ok.mpr ⟨(), requireFilled_eq_ok.mpr named, ?_⟩
    refine bind_eq_ok.mpr ⟨(), requireFilled_eq_ok.mpr keyed, ?_⟩
    refine bind_eq_ok.mpr ⟨false, lift_eq_ok.mpr ordered, ?_⟩
    exact bind_eq_ok.mpr ⟨level, known, bind_eq_ok.mpr ⟨url, lift_eq_ok.mpr based, rfl⟩⟩

end DocSpace.ConnectionSettings
