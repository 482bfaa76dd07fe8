import DocSpace.Failure
import Mathlib.Data.List.Forall2

set_option autoImplicit false

namespace DocSpace

variable {ε α β : Type}

theorem bind_eq_ok {x : Except ε α} {f : α → Except ε β} {b : β} :
    (x >>= f) = .ok b ↔ ∃ a, x = .ok a ∧ f a = .ok b := by
  constructor
  · intro run
    cases x with
    | error e => cases run
    | ok a => exact ⟨a, rfl, run⟩
  · rintro ⟨a, rfl, run⟩
    exact run

theorem map_eq_ok {x : Except ε α} {f : α → β} {b : β} :
    x.map f = .ok b ↔ ∃ a, x = .ok a ∧ f a = b := by
  constructor
  · intro run
    cases x with
    | error e => cases run
    | ok a => exact ⟨a, rfl, Except.ok.inj run⟩
  · rintro ⟨a, rfl, rfl⟩
    rfl

theorem map_bind {γ : Type} (x : Except ε α) (f : α → β) (g : β → Except ε γ) :
    x.map f >>= g = x >>= fun a => g (f a) := by
  cases x <;> rfl

/-- A fault that becomes a failure stays one. -/
theorem lift_eq_ok {x : Except Fault α} {a : α} :
    (liftM x : Except Failure α) = .ok a ↔ x = .ok a := by
  constructor <;> intro run
  · cases x with
    | error f => cases run
    | ok b => exact congrArg Except.ok (Except.ok.inj run)
  · rw [run]
    rfl

theorem toOption_eq_some {x : Except ε α} {a : α} : x.toOption = some a ↔ x = .ok a := by
  cases x with
  | error e => exact iff_of_false nofun nofun
  | ok b => exact ⟨fun same => congrArg Except.ok (Option.some.inj same), fun same => same ▸ rfl⟩

theorem bind_eq_error {x : Except ε α} {f : α → Except ε β} {e : ε} :
    (x >>= f) = .error e ↔ x = .error e ∨ ∃ a, x = .ok a ∧ f a = .error e := by
  constructor
  · intro run
    cases x with
    | error e' => exact Or.inl (congrArg Except.error (Except.error.inj run))
    | ok a => exact Or.inr ⟨a, rfl, run⟩
  · rintro (rfl | ⟨a, rfl, run⟩)
    · rfl
    · exact run

theorem map_eq_error {x : Except ε α} {f : α → β} {e : ε} :
    x.map f = .error e ↔ x = .error e := by
  cases x with
  | error e' => simp only [Except.map, Except.error.injEq]
  | ok a => exact iff_of_false nofun nofun

theorem lift_eq_error {x : Except Fault α} {e : Failure} :
    (liftM x : Except Failure α) = .error e ↔ ∃ f, x = .error f ∧ e = .fault f := by
  constructor
  · intro run
    cases x with
    | error f => exact ⟨f, rfl, (Except.error.inj run).symm⟩
    | ok a => cases run
  · rintro ⟨f, rfl, rfl⟩
    rfl

theorem mapError_eq_ok {ε' : Type} {x : Except ε α} {f : ε → ε'} {a : α} :
    x.mapError f = .ok a ↔ x = .ok a := by
  cases x with
  | error e => exact iff_of_false nofun nofun
  | ok b => simp only [Except.mapError, Except.ok.injEq]

theorem mapError_eq_error {ε' : Type} {x : Except ε α} {f : ε → ε'} {e' : ε'} :
    x.mapError f = .error e' ↔ ∃ e, x = .error e ∧ e' = f e := by
  cases x with
  | error e =>
      simp only [Except.mapError, Except.error.injEq, exists_eq_left']
      exact eq_comm
  | ok a => exact iff_of_false nofun nofun

theorem exists_error_of_ne_ok {x : Except ε α} (fails : ∀ a, x ≠ .ok a) : ∃ e, x = .error e := by
  cases x with
  | error e => exact ⟨e, rfl⟩
  | ok a => exact absurd rfl (fails a)

theorem mapM_eq_ok {f : α → Except ε β} {as : List α} {bs : List β} :
    as.mapM f = .ok bs ↔ List.Forall₂ (fun a b => f a = .ok b) as bs := by
  induction as generalizing bs with
  | nil =>
      rw [List.mapM_nil, List.forall₂_nil_left_iff]
      exact ⟨fun run => (Except.ok.inj run).symm, fun same => congrArg Except.ok same.symm⟩
  | cons a as ih =>
      rw [List.mapM_cons, bind_eq_ok, List.forall₂_cons_left_iff]
      constructor
      · rintro ⟨b, head, run⟩
        obtain ⟨rest, tail, same⟩ := bind_eq_ok.mp run
        exact ⟨b, rest, head, ih.mp tail, (Except.ok.inj same).symm⟩
      · rintro ⟨b, rest, head, tail, rfl⟩
        exact ⟨b, head, bind_eq_ok.mpr ⟨rest, ih.mpr tail, rfl⟩⟩

theorem forall₂_map_self {R : α → β → Prop} {f : α → β} {as : List α}
    (each : ∀ a ∈ as, R a (f a)) : List.Forall₂ R as (as.map f) :=
  List.forall₂_map_right_iff.mpr (List.forall₂_same.mpr each)

theorem mapM_eq_ok_map {f : α → Except ε β} {g : α → β} {as : List α}
    (each : ∀ a ∈ as, f a = .ok (g a)) : as.mapM f = .ok (as.map g) :=
  mapM_eq_ok.mpr (forall₂_map_self each)

theorem exists_of_forall₂ {R : α → β → Prop} {as : List α} {bs : List β}
    (each : List.Forall₂ R as bs) {a : α} (member : a ∈ as) : ∃ b ∈ bs, R a b := by
  induction each with
  | nil => exact absurd member List.not_mem_nil
  | cons head _ ih =>
      rcases List.mem_cons.mp member with rfl | member
      · exact ⟨_, List.mem_cons_self, head⟩
      · obtain ⟨b, hb, own⟩ := ih member
        exact ⟨b, List.mem_cons_of_mem _ hb, own⟩

theorem exists_of_mapM_eq_ok {f : α → Except ε β} {as : List α} {bs : List β}
    (run : as.mapM f = .ok bs) {a : α} (member : a ∈ as) : ∃ b ∈ bs, f a = .ok b :=
  exists_of_forall₂ (mapM_eq_ok.mp run) member

theorem exists_of_mem_mapM_eq_ok {f : α → Except ε β} {as : List α} {bs : List β}
    (run : as.mapM f = .ok bs) {b : β} (member : b ∈ bs) : ∃ a ∈ as, f a = .ok b :=
  exists_of_forall₂ (List.Forall₂.flip (mapM_eq_ok.mp run)) member

theorem mapM_cons_eq_error {f : α → Except ε β} {a : α} {as : List α} {e : ε} :
    (a :: as).mapM f = .error e ↔ f a = .error e ∨ ∃ v, f a = .ok v ∧ as.mapM f = .error e := by
  have later (v : β) : (as.mapM f >>= fun bs => pure (v :: bs)) = Except.error e ↔
      as.mapM f = .error e :=
    bind_eq_error.trans (or_iff_left (by rintro ⟨_, _, run⟩; cases run))
  rw [List.mapM_cons, bind_eq_error]
  simp only [later]

/-- The first member that fails decides how the whole does. -/
theorem mapM_eq_error {f : α → Except ε β} {as : List α} {e : ε} :
    as.mapM f = .error e ↔
      ∃ before a after, as = before ++ a :: after ∧ (∀ b ∈ before, ∃ v, f b = .ok v) ∧
        f a = .error e := by
  induction as with
  | nil =>
      rw [List.mapM_nil]
      refine iff_of_false nofun ?_
      rintro ⟨before, a, after, split, _⟩
      exact absurd split (by simp)
  | cons a as ih =>
      rw [mapM_cons_eq_error, ih]
      constructor
      · rintro (fails | ⟨v, ok, before, c, after, rfl, passed, fails⟩)
        · exact ⟨[], a, as, rfl, nofun, fails⟩
        · exact ⟨a :: before, c, after, rfl, List.forall_mem_cons.mpr ⟨⟨v, ok⟩, passed⟩, fails⟩
      · rintro ⟨before, c, after, split, passed, fails⟩
        cases before with
        | nil =>
            obtain ⟨rfl, rfl⟩ := List.cons.inj split
            exact Or.inl fails
        | cons b before =>
            obtain ⟨rfl, rfl⟩ := List.cons.inj split
            obtain ⟨⟨v, ok⟩, passed⟩ := List.forall_mem_cons.mp passed
            exact Or.inr ⟨v, ok, before, c, after, rfl, passed, fails⟩

/-- A run over a list succeeds just if it does on every member. -/
theorem exists_mapM_ok_iff {f : α → Except ε β} {as : List α} :
    (∃ bs, as.mapM f = .ok bs) ↔ ∀ a ∈ as, ∃ b, f a = .ok b := by
  constructor
  · rintro ⟨bs, run⟩ a member
    obtain ⟨b, _, own⟩ := exists_of_mapM_eq_ok run member
    exact ⟨b, own⟩
  · intro each
    cases run : as.mapM f with
    | ok bs => exact ⟨bs, rfl⟩
    | error e =>
        obtain ⟨before, a, after, rfl, _, fails⟩ := mapM_eq_error.mp run
        obtain ⟨b, own⟩ := each a (List.mem_append_right _ List.mem_cons_self)
        exact absurd (fails.symm.trans own) nofun

theorem mapM_congr {f g : α → Except ε β} {as : List α} (same : ∀ a ∈ as, f a = g a) :
    as.mapM f = as.mapM g := by
  induction as with
  | nil => rfl
  | cons a as ih =>
      rw [List.forall_mem_cons] at same
      rw [List.mapM_cons, List.mapM_cons, same.1, ih same.2]

theorem mapM_eq_error_of_alike {f g : α → Except ε β}
    (alike : ∀ a e, f a = .error e ↔ g a = .error e) {as : List α} {e : ε}
    (run : as.mapM f = .error e) : as.mapM g = .error e := by
  obtain ⟨before, a, after, split, passed, fails⟩ := mapM_eq_error.mp run
  refine mapM_eq_error.mpr ⟨before, a, after, split, fun b hb => ?_, (alike a e).mp fails⟩
  obtain ⟨v, ok⟩ := passed b hb
  cases other : g b with
  | ok w => exact ⟨w, rfl⟩
  | error e' =>
      rw [(alike b e').mpr other] at ok
      cases ok

/-- Runs whose members fail alike end alike just if a member fails or all members end alike. -/
theorem mapM_eq_mapM_iff {f g : α → Except ε β} (alike : ∀ a e, f a = .error e ↔ g a = .error e)
    {as : List α} :
    as.mapM f = as.mapM g ↔ (∃ a ∈ as, ∃ e, f a = .error e) ∨ ∀ a ∈ as, f a = g a := by
  constructor
  · intro same
    cases run : as.mapM f with
    | error e =>
        obtain ⟨before, a, after, rfl, _, fails⟩ := mapM_eq_error.mp run
        exact Or.inl ⟨a, List.mem_append_right _ List.mem_cons_self, e, fails⟩
    | ok vs =>
        refine Or.inr ?_
        have left := mapM_eq_ok.mp run
        have right := mapM_eq_ok.mp (same.symm.trans run)
        clear run same
        induction left with
        | nil => exact nofun
        | cons head _ ih =>
            rw [List.forall₂_cons] at right
            exact List.forall_mem_cons.mpr ⟨head.trans right.1.symm, ih right.2⟩
  · rintro (⟨a, member, e, fails⟩ | same)
    · cases run : as.mapM f with
      | ok vs =>
          obtain ⟨v, _, ok⟩ := exists_of_mapM_eq_ok run member
          rw [fails] at ok
          cases ok
      | error e => exact (mapM_eq_error_of_alike alike run).symm
    · exact mapM_congr same

/-- Runs that fail with the same error, or whose results belong together. -/
inductive Alike (R : α → β → Prop) : Except ε α → Except ε β → Prop where
  | ok {a : α} {b : β} (results : R a b) : Alike R (.ok a) (.ok b)
  | error (e : ε) : Alike R (.error e) (.error e)

section Alike

variable {γ δ : Type} {R : α → β → Prop} {S : γ → δ → Prop}

theorem alike_of_eq {R : α → α → Prop} (refl : ∀ a, R a a) (x : Except ε α) : Alike R x x := by
  cases x with
  | ok a => exact .ok (refl a)
  | error e => exact .error e

theorem Alike.bind {x : Except ε α} {y : Except ε β} {f : α → Except ε γ} {g : β → Except ε δ}
    (runs : Alike R x y) (next : ∀ a b, R a b → Alike S (f a) (g b)) :
    Alike S (x >>= f) (y >>= g) := by
  cases runs with
  | ok results => exact next _ _ results
  | error e => exact .error e

theorem alike_mapM {f : α → Except ε γ} {g : β → Except ε δ} {as : List α} {bs : List β}
    (inputs : List.Forall₂ R as bs) (step : ∀ a b, R a b → Alike S (f a) (g b)) :
    Alike (List.Forall₂ S) (as.mapM f) (bs.mapM g) := by
  induction inputs with
  | nil => exact .ok .nil
  | @cons a b as bs head _ ih =>
      rw [List.mapM_cons, List.mapM_cons]
      exact (step a b head).bind fun c d first => ih.bind fun cs ds rest => .ok (.cons first rest)

theorem Alike.eq_ok_nil_iff {x : Except ε (List α)} {y : Except ε (List β)}
    (runs : Alike (List.Forall₂ R) x y) : x = .ok [] ↔ y = .ok [] := by
  cases runs with
  | ok results =>
      cases results with
      | nil => exact iff_of_true rfl rfl
      | cons => exact iff_of_false nofun nofun
  | error e => exact iff_of_false nofun nofun

end Alike

end DocSpace
