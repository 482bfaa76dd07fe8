import DocSpace.Proofs.Redaction.Records

set_option autoImplicit false

namespace DocSpace.Redaction

/-- A key without a lower case, in a record that no sensitive name keeps out of reach. -/
def Blocks (p : Policy) (es : Entries) (k : Value) : Prop :=
  ∃ place record, es.recordAt? p.hides place = some record ∧ k ∈ record.keys ∧
    k.hasLowerCase = false

variable {p : Policy} {es rest inner : Entries} {k key v : Value}

theorem coversKey_of_no_lowerCase (plain : k.hasLowerCase = false) :
    p.coversKey k = .error (k.lacking "lower" none) := by
  cases k <;> first | rfl | cases plain

section Blocks

theorem not_blocks_nil (p : Policy) (key : Value) : ¬Blocks p [] key := by
  rintro ⟨place, record, found, member, _⟩
  cases place with
  | nil =>
      obtain rfl := Option.some.inj found
      exact absurd member List.not_mem_nil
  | cons i place => cases found

theorem Blocks.own (plain : k.hasLowerCase = false) : Blocks p ((k, v) :: rest) k :=
  ⟨[], (k, v) :: rest, rfl, List.mem_cons_self, plain⟩

theorem Blocks.inside (free : p.hides k = false) (blocks : Blocks p inner key) :
    Blocks p ((k, .dict inner) :: rest) key := by
  obtain ⟨place, record, found, member, plain⟩ := blocks
  have reached : Entries.recordAt? p.hides (0 :: place) ((k, .dict inner) :: rest) = some record :=
    Entries.recordAt?_cons_eq_some.mpr ⟨k, inner, rfl, free, found⟩
  exact ⟨0 :: place, record, reached, member, plain⟩

theorem Blocks.later (blocks : Blocks p rest key) (k v : Value) :
    Blocks p ((k, v) :: rest) key := by
  obtain ⟨place, record, found, member, plain⟩ := blocks
  cases place with
  | nil =>
      obtain rfl := Option.some.inj found
      exact ⟨[], (k, v) :: rest, rfl, List.mem_cons_of_mem k member, plain⟩
  | cons i place =>
      obtain ⟨k', inner, entry, free, below⟩ := Entries.recordAt?_cons_eq_some.mp found
      have reached : Entries.recordAt? p.hides ((i + 1) :: place) ((k, v) :: rest) = some record :=
        Entries.recordAt?_cons_eq_some.mpr ⟨k', inner, entry, free, below⟩
      exact ⟨(i + 1) :: place, record, reached, member, plain⟩

/-- A record is blocked by its own keys and in the records that are reached from it. -/
theorem blocks_cons (blocks : Blocks p ((k, v) :: rest) key) :
    (key = k ∧ k.hasLowerCase = false) ∨
      (p.hides k = false ∧ ∃ inner, v = .dict inner ∧ Blocks p inner key) ∨
        Blocks p rest key := by
  obtain ⟨place, record, found, member, plain⟩ := blocks
  match place with
  | [] =>
      obtain rfl := Option.some.inj found
      rcases List.mem_cons.mp member with own | later
      · obtain rfl : key = k := own
        exact .inl ⟨rfl, plain⟩
      · exact .inr (.inr ⟨[], rest, rfl, later, plain⟩)
  | 0 :: place =>
      obtain ⟨k', inner, entry, free, below⟩ := Entries.recordAt?_cons_eq_some.mp found
      obtain ⟨rfl, rfl⟩ := Prod.mk.inj (Option.some.inj entry)
      exact .inr (.inl ⟨free, inner, rfl, place, record, below, member, plain⟩)
  | (i + 1) :: place =>
      obtain ⟨k', inner, entry, free, below⟩ := Entries.recordAt?_cons_eq_some.mp found
      have reached : rest.recordAt? p.hides (i :: place) = some record :=
        Entries.recordAt?_cons_eq_some.mpr ⟨k', inner, entry, free, below⟩
      exact .inr (.inr ⟨i :: place, record, reached, member, plain⟩)

end Blocks

/-- The ways in which the pass ends: with a record of the same keys where none blocks it, or with
the fault of one that does. -/
inductive Ends (p : Policy) (es : Entries) : Except Fault Entries → Prop where
  | shown {hs : Entries} (free : ∀ key, ¬Blocks p es key) (keys : hs.keys = es.keys) :
      Ends p es (.ok hs)
  | blocked {key : Value} (blocks : Blocks p es key) : Ends p es (.error (key.lacking "lower" none))

/-- The ways in which a value ends that is not hidden itself. -/
inductive EndsInside (p : Policy) : Value → Except Fault Value → Prop where
  | shown {v w : Value} (free : ∀ inner, v = .dict inner → ∀ key, ¬Blocks p inner key) :
      EndsInside p v (.ok w)
  | blocked {inner : Entries} {key : Value} (blocks : Blocks p inner key) :
      EndsInside p (.dict inner) (.error (key.lacking "lower" none))

theorem endsInside_dict (k : Value) (ends : Ends p inner (hideDeep p inner)) :
    EndsInside p (.dict inner) (hideInside p k (.dict inner)) := by
  rw [hideInside]
  cases run : hideDeep p inner with
  | ok hs =>
      rw [run] at ends
      cases ends with
      | shown free keys =>
          refine .shown fun inner' same => ?_
          obtain rfl := Value.dict.inj same
          exact free
  | error f =>
      rw [run] at ends
      cases ends with
      | blocked blocks => exact .blocked blocks

theorem endsInside_of_not_dict (plain : v.isDict = false) (k : Value) :
    EndsInside p v (hideInside p k v) := by
  rw [hideInside_of_not_dict plain]
  refine .shown fun inner same => ?_
  rw [same] at plain
  cases plain

/-- Behind an entry that nothing blocks the pass ends as it does on the rest. -/
theorem Ends.cons (lower : k.hasLowerCase = true)
    (clear : p.hides k = false → ∀ inner, v = .dict inner → ∀ key, ¬Blocks p inner key)
    (w : Value) {run : Except Fault Entries} (others : Ends p rest run) :
    Ends p ((k, v) :: rest) (run.map fun hs => (k, w) :: hs) := by
  cases others with
  | shown free keys =>
      refine .shown (fun key blocks => ?_) (congrArg (k :: ·) keys)
      rcases blocks_cons blocks with ⟨_, plain⟩ | ⟨shown, inner, same, below⟩ | later
      · rw [lower] at plain
        cases plain
      · exact clear shown inner same key below
      · exact free key later
  | blocked blocks => exact .blocked (blocks.later k v)

theorem hideDeep_cons_ends (inside : EndsInside p v (hideInside p k v))
    (others : Ends p rest (hideDeep p rest)) :
    Ends p ((k, v) :: rest) (hideDeep p ((k, v) :: rest)) := by
  by_cases lower : k.hasLowerCase = true
  · rw [hideDeep_cons_eq lower]
    cases covered : p.hides k with
    -- The value is not entered, so nothing in it blocks.
    | true => exact others.cons lower (fun shown => absurd (covered.symm.trans shown) nofun) _
    | false =>
        cases run : hideInside p k v with
        | ok w =>
            rw [run] at inside
            cases inside with
            | shown free => exact others.cons lower (fun _ => free) w
        | error f =>
            rw [run] at inside
            cases inside with
            | blocked blocks => exact .blocked (blocks.inside covered)
  · have plain : k.hasLowerCase = false := Bool.eq_false_iff.mpr lower
    have run : hideDeep p ((k, v) :: rest) = .error (k.lacking "lower" none) := by
      rw [hideDeep, coversKey_of_no_lowerCase plain]
      rfl
    rw [run]
    exact .blocked (.own plain)

theorem hideDeep_ends (p : Policy) (es : Entries) : Ends p es (hideDeep p es) := by
  induction es using Entries.recordInduction with
  | nil => exact .shown (not_blocks_nil p) rfl
  | dict k inner rest ihInner ih => exact hideDeep_cons_ends (endsInside_dict k ihInner) ih
  | other k v rest plain ih => exact hideDeep_cons_ends (endsInside_of_not_dict plain k) ih

theorem redactDeep_cases (p : Policy) (es : Entries) :
    ((∀ key, ¬Blocks p es key) ∧
        ∃ shown : Entries, redactDeep p (.dict es) = .ok (.dict shown) ∧ shown.keys = es.keys) ∨
      ∃ key, Blocks p es key ∧ redactDeep p (.dict es) = .error (key.lacking "lower" none) := by
  have ends := hideDeep_ends p es
  have whole : redactDeep p (.dict es) = (hideDeep p es).map Value.dict := rfl
  rw [whole]
  cases run : hideDeep p es with
  | ok hs =>
      rw [run] at ends
      cases ends with
      | shown free keys => exact .inl ⟨free, hs, rfl, keys⟩
  | error f =>
      rw [run] at ends
      cases ends with
      | blocked blocks => exact .inr ⟨_, blocks, rfl⟩

theorem not_blocks_of_redactDeep_eq_ok {shown : Value}
    (run : redactDeep p (.dict es) = .ok shown) (key : Value) : ¬Blocks p es key := by
  rcases redactDeep_cases p es with ⟨free, _⟩ | ⟨_, _, failed⟩
  · exact free key
  · rw [failed] at run
    cases run

theorem exists_redactDeep_iff (p : Policy) (es : Entries) :
    (∃ shown : Entries, redactDeep p (.dict es) = .ok (.dict shown) ∧ shown.keys = es.keys) ↔
      ∀ key, ¬Blocks p es key := by
  constructor
  · rintro ⟨shown, run, _⟩
    exact not_blocks_of_redactDeep_eq_ok run
  · intro free
    rcases redactDeep_cases p es with ⟨_, shown⟩ | ⟨key, blocks, _⟩
    · exact shown
    · exact absurd blocks (free key)

theorem exists_blocks_of_redactDeep_eq_error {f : Fault}
    (run : redactDeep p (.dict es) = .error f) :
    ∃ key, Blocks p es key ∧ f = key.lacking "lower" none := by
  rcases redactDeep_cases p es with ⟨_, _, passed, _⟩ | ⟨key, blocks, failed⟩
  · rw [passed] at run
    cases run
  · exact ⟨key, blocks, Except.error.inj (run.symm.trans failed)⟩

end DocSpace.Redaction
