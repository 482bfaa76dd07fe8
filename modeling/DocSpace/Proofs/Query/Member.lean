import DocSpace.Proofs.Text.Pieces
import DocSpace.Query.Filter

set_option autoImplicit false

namespace DocSpace

open Text

namespace Value

def underlying? : Value → Option Value
  | member _ _ v => some v
  | textMember _ _ s => some (text s)
  | intMember _ _ i => some (int i)
  | _ => none

/-- Whether a value looks on its own as it does in a query string. Truth values and `null` do not,
and a member looks like its names. -/
def LooksRendered : Value → Prop
  | null | bool _ => False
  | member enum name v => memberName enum name = v.plain
  | textMember enum name s => memberName enum name = s
  | intMember enum name i => memberName enum name = Number.intText i
  | _ => True

end Value

namespace Query

/-- One value in the place of another: by itself, or as one of several. -/
inductive Replaces (m v : Value) : Value → Value → Prop where
  | single : Replaces m v m v
  | listed (before after : List Value) :
      Replaces m v (.list (before ++ m :: after)) (.list (before ++ v :: after))
  | tupled (before after : List Value) :
      Replaces m v (.tuple (before ++ m :: after)) (.tuple (before ++ v :: after))

structure Filter.Replaces (f g : Filter) (m v : Value) : Prop where
  field : g.field = f.field
  operation : g.operation = f.operation
  value : Query.Replaces m v f.value g.value

variable {f g : Filter} {m v : Value}

theorem render_eq_plain_iff (v : Value) : render v = v.plain ↔ v.LooksRendered := by
  cases v with
  | null => exact iff_of_false (by decide) id
  | bool b => cases b <;> exact iff_of_false (by decide) id
  | member | textMember | intMember => exact eq_comm
  | _ => exact iff_of_true rfl trivial

theorem renderItem_eq_plain_iff (v : Value) : renderItem v = v.plain ↔ v.LooksRendered := by
  by_cases missing : v.isNull = true
  · cases v with
    | null => exact iff_of_false (by decide) id
    | _ => cases missing
  · rw [renderItem, if_neg missing]
    exact render_eq_plain_iff v

/-- A member leaves the plain text of its value. -/
theorem render_of_underlying (under : m.underlying? = some v) : render m = v.plain := by
  cases m <;> cases under <;> rfl

theorem renderItem_of_underlying (under : m.underlying? = some v) : renderItem m = v.plain := by
  rw [← render_of_underlying under]
  cases m <;> cases under <;> rfl

theorem isSequence_of_underlying (under : m.underlying? = some v) : m.isSequence = false := by
  cases m <;> cases under <;> rfl

theorem Filter.operand_of_single (f : Filter) (single : f.value.isSequence = false) :
    f.operand = render f.value := by
  have kind : f.isMembership = false := f.shaped.symm.trans single
  rw [operand, kind]
  rfl

theorem Filter.operand_of_sequence (f : Filter) (several : f.value.isSequence = true) :
    f.operand = joined itemSeparator (f.value.members.map renderItem) := by
  have kind : f.isMembership = true := f.shaped.symm.trans several
  rw [operand, operands, kind]
  rfl

/-- Where one of several texts differs the whole does. -/
theorem joined_renderItem_eq_iff (before after : List Value) :
    joined itemSeparator ((before ++ m :: after).map renderItem) =
        joined itemSeparator ((before ++ v :: after).map renderItem) ↔
      renderItem m = renderItem v := by
  obtain ⟨front, back, whole⟩ :=
    joined_around itemSeparator (before.map renderItem) (after.map renderItem)
  simp only [List.map_append, List.map_cons, whole, String.append_left_inj,
    String.append_right_inj]

theorem operand_eq_iff (under : m.underlying? = some v) (replaces : f.Replaces g m v) :
    f.operand = g.operand ↔ v.LooksRendered := by
  have kinds : g.value.isSequence = f.value.isSequence := by
    rw [g.shaped, f.shaped, replaces.operation]
  have place := replaces.value
  generalize own : f.value = x at place
  generalize other : g.value = y at place
  cases place with
  | single =>
      have single : f.value.isSequence = false := by rw [own, isSequence_of_underlying under]
      rw [f.operand_of_single single, g.operand_of_single (kinds.trans single), own, other,
        render_of_underlying under, ← render_eq_plain_iff]
      exact eq_comm
  | listed before after | tupled before after =>
      have several : f.value.isSequence = true := by
        rw [own]
        rfl
      rw [f.operand_of_sequence several, g.operand_of_sequence (kinds.trans several), own, other]
      refine (joined_renderItem_eq_iff before after).trans ?_
      rw [renderItem_of_underlying under, ← renderItem_eq_plain_iff]
      exact eq_comm

/-- A member makes the same fragment as its value just if the value looks on its own as it is
rendered. -/
theorem member_fragment_eq_iff (under : m.underlying? = some v) (replaces : f.Replaces g m v) :
    f.fragment = g.fragment ↔ v.LooksRendered := by
  rw [← operand_eq_iff under replaces, Filter.fragment, Filter.fragment, replaces.field,
    replaces.operation, String.append_right_inj]

def flags (v : Value) : Filter := ⟨.text "flag", .text "IN", .list [.bool true, v, .null], rfl, rfl⟩

theorem flags_member_fragment_eq_iff :
    let on : Value := .member "Flag" "ON" (.text "on")
    on.underlying? = some (.text "on") ∧ (flags on).Replaces (flags (.text "on")) on (.text "on") ∧
      ((flags on).fragment = (flags (.text "on")).fragment ↔ (Value.text "on").LooksRendered) := by
  intro on
  have replaces : (flags on).Replaces (flags (.text "on")) on (.text "on") :=
    ⟨rfl, rfl, .listed [.bool true] [.null]⟩
  exact ⟨rfl, replaces, member_fragment_eq_iff rfl replaces⟩

/-- A member that stands for a truth value is written with a capital, and the value is not. -/
theorem truth_member_has_capital :
    let on : Value := .member "Flag" "ON" (.bool true)
    let f : Filter := ⟨.text "done", .text "EQ", on, rfl, rfl⟩
    let g : Filter := ⟨.text "done", .text "EQ", .bool true, rfl, rfl⟩
    on.underlying? = some (.bool true) ∧ f.Replaces g on (.bool true) ∧
      f.fragment = "$$done=EQ||True" ∧ g.fragment = "$$done=EQ||true" ∧
      f.fragment ≠ g.fragment := by
  intro on f g
  have member : f.fragment = "$$done=EQ||True" := rfl
  have value : g.fragment = "$$done=EQ||true" := rfl
  refine ⟨rfl, ⟨rfl, rfl, .single⟩, member, value, ?_⟩
  rw [member, value]
  decide

end Query

end DocSpace
