import DocSpace.Proofs.Query.NormalForm

set_option autoImplicit false

namespace DocSpace.Query

open Text

theorem Condition.Readable.operands_ne_nil {c : Condition} (readable : c.Readable) :
    c.operands ≠ [] := by
  by_cases same : c.operation = membership
  · exact readable.some_item same
  · obtain ⟨s, single, _⟩ := readable.single same
    rw [single]
    exact List.cons_ne_nil s []

theorem Condition.Readable.ampersand_operand {c : Condition} (readable : c.Readable) :
    ∀ s ∈ c.operands, '&' ∉ s.toList := by
  intro s member
  by_cases same : c.operation = membership
  · exact (readable.items same s member).1
  · obtain ⟨t, single, free⟩ := readable.single same
    rw [single] at member
    rwa [List.mem_singleton.mp member]

theorem Condition.Readable.separable {c : Condition} (readable : c.Readable) :
    c.parameter.Separable where
  name_ampersand := by
    simpa only [Condition.parameter, String.toList_append, List.mem_append, not_or] using
      ⟨by decide, readable.ampersand⟩
  name_equals := by
    simpa only [Condition.parameter, String.toList_append, List.mem_append, not_or] using
      ⟨by decide, readable.equals⟩
  value_ampersand := by
    simpa only [Condition.parameter, String.toList_append, List.mem_append, not_or] using
      ⟨⟨(operation_marks readable.known).1, by decide⟩,
        not_mem_joined (by decide) readable.ampersand_operand⟩

theorem Condition.slot_parameter (c : Condition) : c.parameter.slot = .filters := by
  have mark : c.parameter.1.toList.head? = some '$' := by
    simp only [Condition.parameter, String.toList_append]
    rfl
  have other (name : String) (head : name.toList.head? ≠ some '$') : c.parameter.1 ≠ name := by
    rintro rfl
    exact head mark
  simp only [Parameter.slot, other "select" (by decide), other "skip" (by decide),
    other "take" (by decide), other "relations" (by decide), other "sort" (by decide), ↓reduceIte]

/-- The field ends at the first equals sign, the operation at the first bar. -/
theorem Condition.parameter_injective {c d : Condition} (left : c.Readable) (right : d.Readable)
    (equal : c.parameter = d.parameter) : c = d := by
  obtain ⟨names, values⟩ := Prod.mk.inj equal
  have field : c.field = d.field := by
    have chars := congrArg String.toList names
    simp only [String.toList_append, List.append_cancel_left_eq] at chars
    exact String.toList_injective chars
  have chars := congrArg String.toList values
  simp only [String.toList_append, List.append_assoc] at chars
  obtain ⟨operations, rest⟩ := append_cons_injective (operation_marks left.known).2
    (operation_marks right.known).2 chars
  have operation : c.operation = d.operation := String.toList_injective operations
  have operand : joined itemSeparator c.operands = joined itemSeparator d.operands :=
    String.toList_injective (List.cons.inj rest).2
  have operands : c.operands = d.operands := by
    by_cases same : c.operation = membership
    · have bar : itemSeparator.toList = ['|'] := by decide
      exact joined_injective bar left.operands_ne_nil
        right.operands_ne_nil (fun s hs => (left.items same s hs).2)
        (fun s hs => (right.items (operation ▸ same) s hs).2) operand
    · obtain ⟨s, single, _⟩ := left.single same
      obtain ⟨t, single', _⟩ := right.single (operation ▸ same)
      rw [single, single'] at operand ⊢
      exact congrArg (fun u => [u]) operand
  cases c
  cases d
  simp only at field operation operands
  rw [field, operation, operands]

theorem letter_not_mem_intText {c : Char} (sign : c ≠ '-') (digit : c.isDigit = false) (i : Int) :
    c ∉ (Number.intText i).toList := by
  intro member
  rcases Number.mem_intText member with same | isDigit
  · exact sign same
  · exact absurd (digit.symm.trans isDigit) (by decide)

theorem int_ne_bool (i : Int) (b : Bool) : (Value.int i).plain ≠ (Value.bool b).plain := by
  intro equal
  have last : 'e' ∈ (Value.int i).plain.toList := by
    rw [equal]
    cases b <;> decide
  exact letter_not_mem_intText (by decide) (by decide) i last

theorem IsCount.page_injective {v w : Value} (left : IsCount v) (right : IsCount w) {name : String}
    (equal : ListOptions.part.page name (some v) = ListOptions.part.page name (some w)) :
    v = w := by
  cases left with
  | null =>
      cases right with
      | null => rfl
      | int i => exact absurd equal (List.cons_ne_nil _ _).symm
      | bool b => exact absurd equal (List.cons_ne_nil _ _).symm
  | int i =>
      cases right with
      | null => exact absurd equal (List.cons_ne_nil _ _)
      | int j =>
          have texts := (Prod.mk.inj (List.cons.inj equal).1).2
          exact congrArg Value.int (Number.intText_injective texts)
      | bool b => exact absurd (Prod.mk.inj (List.cons.inj equal).1).2 (int_ne_bool i b)
  | bool b =>
      cases right with
      | null => exact absurd equal (List.cons_ne_nil _ _)
      | int i => exact absurd (Prod.mk.inj (List.cons.inj equal).1).2.symm (int_ne_bool i b)
      | bool b' =>
          have texts := (Prod.mk.inj (List.cons.inj equal).1).2
          cases b <;> cases b' <;> first | rfl | exact absurd texts (by decide)

theorem IsOrder.toList_orderText (s : String) (desc : Bool) :
    (orderText (s, desc)).toList = s.toList ++ if desc then "||desc".toList else [] := by
  cases desc <;> simp [orderText]

theorem IsOrder.ne_preset {f : String × Bool} (order : IsOrder f.1) (p : Preset) :
    orderText f ≠ p.wireName := by
  obtain ⟨s, desc⟩ := f
  cases desc with
  | false => simpa [orderText] using order.preset p
  | true =>
      intro equal
      have bar : '|' ∈ p.wireName.toList := by
        rw [← equal, IsOrder.toList_orderText]
        exact List.mem_append_right _ (by decide)
      revert bar
      cases p <;> decide

theorem IsOrder.ampersand_orderText {f : String × Bool} (order : IsOrder f.1) :
    '&' ∉ (orderText f).toList := by
  obtain ⟨s, desc⟩ := f
  rw [IsOrder.toList_orderText, List.mem_append, not_or]
  exact ⟨order.ampersand, by cases desc <;> decide⟩

theorem IsOrder.orderText_injective {f g : String × Bool} (left : IsOrder f.1)
    (right : IsOrder g.1) (equal : orderText f = orderText g) : f = g := by
  obtain ⟨s, desc⟩ := f
  obtain ⟨t, desc'⟩ := g
  have chars := congrArg String.toList equal
  rw [IsOrder.toList_orderText, IsOrder.toList_orderText] at chars
  cases desc <;> cases desc' <;>
    simp only [↓reduceIte, List.append_nil, Bool.false_eq_true] at chars
  · rw [String.toList_injective chars]
  · exact absurd (chars ▸ List.mem_append_right _ (by decide)) left.bar
  · exact absurd (chars.symm ▸ List.mem_append_right _ (by decide)) right.bar
  · rw [String.toList_injective (List.append_cancel_right chars)]

theorem Parameter.Separable.of_name {name value : String}
    (marks : '&' ∉ name.toList ∧ '=' ∉ name.toList) (free : '&' ∉ value.toList) :
    Parameter.Separable (name, value) :=
  ⟨marks.1, marks.2, free⟩

/-- Each parameter is in the slot of its clause and can be told from its neighbours. -/
theorem NormalForm.Readable.parameter {n : NormalForm} (readable : n.Readable) {s : Slot}
    {p : Parameter} (member : p ∈ n.part s) : p.slot = s ∧ p.Separable := by
  cases s with
  | filters =>
      obtain ⟨c, hc, rfl⟩ := List.mem_map.mp member
      exact ⟨c.slot_parameter, (readable.conditions c hc).separable⟩
  | select =>
      simp only [NormalForm.part] at member
      split at member
      · exact absurd member List.not_mem_nil
      · obtain rfl := List.mem_singleton.mp member
        exact ⟨rfl, .of_name (by decide)
          (not_mem_joined (by decide) fun t ht => (readable.selections t ht).ampersand)⟩
  | skip =>
      obtain ⟨v, found, rfl⟩ := mem_page member
      exact ⟨rfl, .of_name (by decide) (Option.some.inj found ▸ readable.skip.ampersand)⟩
  | take =>
      obtain ⟨v, found, rfl⟩ := mem_page member
      exact ⟨rfl, .of_name (by decide) (Option.some.inj found ▸ readable.take.ampersand)⟩
  | relations =>
      obtain ⟨ss, hs, rfl⟩ := List.mem_map.mp member
      have each := readable.relations ss (Option.mem_toList.mp hs)
      exact ⟨rfl, .of_name (by decide)
        (not_mem_joined (by decide) fun t ht => (each t ht).ampersand)⟩
  | preset =>
      obtain ⟨preset, _, rfl⟩ := List.mem_map.mp member
      cases preset <;> exact ⟨by decide, by decide, by decide, by decide⟩
  | sortBy =>
      obtain ⟨f, hf, rfl⟩ := List.mem_map.mp member
      have order := readable.sortBy f (Option.mem_toList.mp hf)
      refine ⟨?_, .of_name (by decide) order.ampersand_orderText⟩
      have other : orderText f ∉ Preset.all.map Preset.wireName := by
        intro name
        obtain ⟨preset, _, same⟩ := List.mem_map.mp name
        exact order.ne_preset preset same.symm
      simp [Parameter.slot, other]

theorem NormalForm.parametersText_injective {n m : NormalForm} (left : n.Readable)
    (right : m.Readable) (equal : parametersText n.parameters = parametersText m.parameters)
    (s : Slot) : n.part s = m.part s := by
  have separable {k : NormalForm} (readable : k.Readable) : ∀ p ∈ k.parameters, p.Separable := by
    intro p member
    obtain ⟨t, _, own⟩ := List.mem_flatMap.mp member
    exact (readable.parameter own).2
  have parameters := Query.parametersText_injective (separable left) (separable right) equal
  exact parts_injective (fun t p own => (left.parameter own).1)
    (fun t p own => (right.parameter own).1) parameters s

theorem map_injective_on {α β : Type} {f : α → β} {P : α → Prop}
    (injective : ∀ a b, P a → P b → f a = f b → a = b) {as bs : List α}
    (left : ∀ a ∈ as, P a) (right : ∀ b ∈ bs, P b) (equal : as.map f = bs.map f) : as = bs := by
  induction as generalizing bs with
  | nil => exact (List.map_eq_nil_iff.mp equal.symm).symm
  | cons a as ih =>
      cases bs with
      | nil => exact absurd equal (List.cons_ne_nil _ _)
      | cons b bs =>
          obtain ⟨head, tail⟩ := List.cons.inj equal
          rw [injective a b (left a List.mem_cons_self) (right b List.mem_cons_self) head,
            ih (fun x hx => left x (List.mem_cons_of_mem a hx))
              (fun x hx => right x (List.mem_cons_of_mem b hx)) tail]

/-- Names are joined by commas, of which they hold none. Since none is empty, neither is a join. -/
theorem IsName.joined_injective {ss ts : List String} (left : ∀ s ∈ ss, IsName s)
    (right : ∀ t ∈ ts, IsName t) (equal : joined "," ss = joined "," ts) : ss = ts := by
  have comma : ",".toList = [','] := by decide
  have empty {us : List String} (each : ∀ u ∈ us, IsName u) (blank : joined "," us = "") :
      us = [] := by
    cases us with
    | nil => rfl
    | cons u us =>
        have chars := congrArg String.toList blank
        rw [toList_joined_cons comma, String.toList_empty] at chars
        have first := (List.append_eq_nil_iff.mp chars).1
        exact absurd (String.toList_injective first) (each u List.mem_cons_self).filled
  by_cases none_left : ss = []
  · subst none_left
    exact (empty right equal.symm).symm
  · by_cases none_right : ts = []
    · subst none_right
      exact empty left equal
    · exact Text.joined_injective comma none_left none_right
        (fun s hs => (left s hs).comma) (fun t ht => (right t ht).comma) equal

theorem toList_map_injective {α β : Type} {f : α → β} {P : α → Prop}
    (injective : ∀ a b, P a → P b → f a = f b → a = b) {a? b? : Option α}
    (left : ∀ a ∈ a?, P a) (right : ∀ b ∈ b?, P b)
    (equal : a?.toList.map f = b?.toList.map f) : a? = b? := by
  have lists := map_injective_on injective (fun a ha => left a (Option.mem_toList.mp ha))
    (fun b hb => right b (Option.mem_toList.mp hb)) equal
  cases a? <;> cases b? <;> simp_all

theorem NormalForm.eq_of_part_eq {n m : NormalForm} (left : n.Readable) (right : m.Readable)
    (parts : ∀ s, n.part s = m.part s) : n = m := by
  have conditions : n.conditions = m.conditions :=
    map_injective_on (fun _ _ => Condition.parameter_injective) left.conditions right.conditions
      (parts .filters)
  have selections : n.selections = m.selections := by
    have select := parts .select
    simp only [NormalForm.part] at select
    split at select <;> split at select
    · next none_left none_right => rw [none_left, none_right]
    · exact absurd select (List.cons_ne_nil _ _).symm
    · exact absurd select (List.cons_ne_nil _ _)
    · exact IsName.joined_injective left.selections right.selections
        (Prod.mk.inj (List.cons.inj select).1).2
  have skip : n.skip = m.skip := left.skip.page_injective right.skip (parts .skip)
  have take : n.take = m.take := left.take.page_injective right.take (parts .take)
  have relations : n.relations = m.relations :=
    toList_map_injective
      (fun _ _ hs ht equal => IsName.joined_injective hs ht (Prod.mk.inj equal).2)
      left.relations right.relations (parts .relations)
  have preset : n.preset = m.preset :=
    toList_map_injective (P := fun _ => True)
      (fun p q _ _ equal => by revert equal; cases p <;> cases q <;> decide)
      (fun _ _ => trivial) (fun _ _ => trivial) (parts .preset)
  have sortBy : n.sortBy = m.sortBy :=
    toList_map_injective (fun _ _ hf hg equal => hf.orderText_injective hg (Prod.mk.inj equal).2)
      left.sortBy right.sortBy (parts .sortBy)
  cases n
  cases m
  simp only at conditions selections skip take relations preset sortBy
  rw [conditions, selections, skip, take, relations, preset, sortBy]

/-- Options without marks of the grammar have a query string, and it determines them up to what
leaves no trace. -/
theorem queryString_eq_iff_normalForm_eq {o o' : ListOptions} (left : o.Shaped)
    (right : o'.Shaped) :
    ∃ s s', queryString o = .ok s ∧ queryString o' = .ok s' ∧
      (s = s' ↔ o.normalForm = o'.normalForm) := by
  refine ⟨_, _, queryString_of_shaped left, queryString_of_shaped right, ?_, ?_⟩
  · intro equal
    exact NormalForm.eq_of_part_eq left.readable right.readable
      (NormalForm.parametersText_injective left.readable right.readable equal)
  · intro same
    rw [same]

def sparse : ListOptions where
  selections := .list []
  filters := some [⟨.text "tag", .text "IN", .list [], by decide, by decide⟩]
  relations := .list []
  sort := .text "latest_first"
  sortBy := some ⟨.text "createdAt", .int 1⟩
  pagination := some ⟨.null, .null⟩

/-- The same query in other words. -/
def spelledOut : ListOptions where
  selections := .null
  filters := some [⟨.text "tag", .text "IN", .tuple [.null], by decide, by decide⟩]
  relations := .list []
  sort := Preset.latestFirst.toValue
  sortBy := some ⟨.text "createdAt", .bool true⟩
  pagination := none

theorem shaped_sparse : sparse.Shaped where
  filters := by
    intro f member
    obtain rfl := List.mem_singleton.mp member
    exact ⟨⟨"tag", rfl, by decide⟩, ⟨"IN", rfl⟩, fun single => absurd single (by decide),
      fun _ v hv => absurd hv List.not_mem_nil⟩
  selections := Or.inr ⟨[], rfl, fun w hw => absurd hw List.not_mem_nil⟩
  relations := Or.inr ⟨[], rfl, fun w hw => absurd hw List.not_mem_nil⟩
  pagination := by
    rintro p ⟨⟩
    exact ⟨.null, .null⟩
  sort := Or.inr ⟨.latestFirst, Or.inr rfl⟩
  sortBy := by
    rintro s ⟨⟩
    exact ⟨"createdAt", rfl, by decide, by decide, by rintro ⟨⟩ <;> decide⟩

theorem shaped_spelledOut : spelledOut.Shaped where
  filters := by
    intro f member
    obtain rfl := List.mem_singleton.mp member
    refine ⟨⟨"tag", rfl, by decide⟩, ⟨"IN", rfl⟩, fun single => absurd single (by decide), ?_⟩
    intro _ v hv
    obtain rfl := List.mem_singleton.mp hv
    decide
  selections := Or.inl rfl
  relations := Or.inr ⟨[], rfl, fun w hw => absurd hw List.not_mem_nil⟩
  pagination := by rintro p ⟨⟩
  sort := Or.inr ⟨.latestFirst, Or.inl rfl⟩
  sortBy := by
    rintro s ⟨⟩
    exact ⟨"createdAt", rfl, by decide, by decide, by rintro ⟨⟩ <;> decide⟩

theorem sparse_queryString_eq_spelledOut :
    sparse.Shaped ∧ spelledOut.Shaped ∧
      ∃ s s', queryString sparse = .ok s ∧ queryString spelledOut = .ok s' ∧
        (s = s' ↔ sparse.normalForm = spelledOut.normalForm) :=
  ⟨shaped_sparse, shaped_spelledOut,
    queryString_eq_iff_normalForm_eq shaped_sparse shaped_spelledOut⟩

end DocSpace.Query
