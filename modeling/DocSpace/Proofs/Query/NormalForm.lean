import DocSpace.Proofs.Query.Parameter
import DocSpace.Proofs.Value.Sequence

set_option autoImplicit false

namespace DocSpace.Query

open Text

/-- What a filter asks for. A list without values asks for the empty text. -/
structure Condition where
  field : String
  operation : String
  operands : List String

/-- Options without the differences that leave no trace: a missing and an empty list of filters or
of selections, a missing page and one without bounds, a preset and its name, the ways to say that
an order is descending. -/
structure NormalForm where
  conditions : List Condition
  selections : List String
  skip : Value
  take : Value
  relations : Option (List String)
  preset : Option Preset
  sortBy : Option (String × Bool)

def orEmptyText : List String → List String
  | [] => [""]
  | ss => ss

def Filter.condition (f : Filter) : Condition where
  field := f.field.plain
  operation := f.operation.plain
  operands :=
    if f.isMembership then orEmptyText (f.operands.map renderItem) else [render f.value]

def ListOptions.normalForm (o : ListOptions) : NormalForm where
  conditions := (o.filters.getD []).map Filter.condition
  selections := o.selections.texts
  skip := (o.pagination.map (·.skip)).getD .null
  take := (o.pagination.map (·.take)).getD .null
  relations := if o.relations.isNull then none else some o.relations.texts
  preset := Preset.ofValue? o.sort
  sortBy := o.sortBy.map fun s => (s.field.plain, s.desc.truthy)

structure IsName (s : String) : Prop where
  filled : s ≠ ""
  ampersand : '&' ∉ s.toList
  comma : ',' ∉ s.toList

structure Filter.Shaped (f : Filter) : Prop where
  field : ∃ s, f.field = .text s ∧ '&' ∉ s.toList ∧ '=' ∉ s.toList
  operation : ∃ s, f.operation = .text s
  single : f.isMembership = false → '&' ∉ (render f.value).toList
  items : f.isMembership = true →
    ∀ v ∈ f.operands, '&' ∉ (renderItem v).toList ∧ '|' ∉ (renderItem v).toList

/-- A field to order by, which no preset is called. -/
structure IsOrder (s : String) : Prop where
  ampersand : '&' ∉ s.toList
  bar : '|' ∉ s.toList
  preset : ∀ p : Preset, s ≠ p.wireName

structure ListOptions.Shaped (o : ListOptions) : Prop where
  filters : ∀ f ∈ o.filters.getD [], f.Shaped
  selections : o.selections.AreTexts IsName
  relations : o.relations.AreTexts IsName
  pagination : ∀ p ∈ o.pagination, IsCount p.skip ∧ IsCount p.take
  sort : o.sort = .null ∨ ∃ p : Preset, o.sort = p.toValue ∨ o.sort = .text p.wireName
  sortBy : ∀ s ∈ o.sortBy, ∃ f, s.field = .text f ∧ IsOrder f

/-- A condition that can be read back. -/
structure Condition.Readable (c : Condition) : Prop where
  ampersand : '&' ∉ c.field.toList
  equals : '=' ∉ c.field.toList
  known : c.operation ∈ operationNames
  single : c.operation ≠ membership → ∃ s, c.operands = [s] ∧ '&' ∉ s.toList
  some_item : c.operation = membership → c.operands ≠ []
  items : c.operation = membership →
    ∀ s ∈ c.operands, '&' ∉ s.toList ∧ '|' ∉ s.toList

structure NormalForm.Readable (n : NormalForm) : Prop where
  conditions : ∀ c ∈ n.conditions, c.Readable
  selections : ∀ s ∈ n.selections, IsName s
  skip : IsCount n.skip
  take : IsCount n.take
  relations : ∀ ss ∈ n.relations, ∀ s ∈ ss, IsName s
  sortBy : ∀ f ∈ n.sortBy, IsOrder f.1

def Condition.parameter (c : Condition) : Parameter :=
  ("$$" ++ c.field, c.operation ++ "||" ++ joined itemSeparator c.operands)

def orderText (f : String × Bool) : String := f.1 ++ if f.2 then "||desc" else ""

def NormalForm.part (n : NormalForm) : Slot → List Parameter
  | .filters => n.conditions.map Condition.parameter
  | .select => if n.selections = [] then [] else [("select", joined "," n.selections)]
  | .skip => ListOptions.part.page "skip" (some n.skip)
  | .take => ListOptions.part.page "take" (some n.take)
  | .relations => n.relations.toList.map fun ss => ("relations", joined "," ss)
  | .preset => n.preset.toList.map fun p => ("sort", p.wireName)
  | .sortBy => n.sortBy.toList.map fun f => ("sort", orderText f)

def NormalForm.parameters (n : NormalForm) : List Parameter := Slot.all.flatMap n.part

theorem isMembership_of_text {f : Filter} {s : String} (operation : f.operation = .text s) :
    f.isMembership = true ↔ s = membership := by
  simp only [Filter.isMembership, Value.isText, operation, Value.asText?, beq_iff_eq,
    Option.some.injEq]

theorem joined_orEmptyText (sep : String) (ss : List String) :
    joined sep (orEmptyText ss) = joined sep ss := by
  cases ss <;> rfl

theorem Filter.operand_eq (f : Filter) :
    f.operand = joined itemSeparator f.condition.operands := by
  cases member : f.isMembership <;>
    simp only [Filter.operand, Filter.condition, member, ↓reduceIte, joined_orEmptyText, joined,
      Bool.false_eq_true]

theorem Filter.parameter_eq (f : Filter) : f.parameter = f.condition.parameter := by
  rw [Filter.parameter, Filter.operand_eq]
  rfl

theorem ofValue?_of_name {v : Value} {p : Preset} (same : v = p.toValue ∨ v = .text p.wireName) :
    Preset.ofValue? v = some p ∧ v.isNull = false := by
  rcases same with rfl | rfl <;> cases p <;> exact ⟨by decide, rfl⟩

theorem page_getD (name : String) (v? : Option Value) :
    ListOptions.part.page name v? = ListOptions.part.page name (some (v?.getD .null)) := by
  cases v? <;> rfl

/-- What a clause gives is what its part of the normal form says. -/
theorem part_eq_normalForm_part {o : ListOptions} (shaped : o.Shaped) (s : Slot) :
    o.part s = .ok (o.normalForm.part s) := by
  cases s with
  | filters =>
      simp only [ListOptions.part, NormalForm.part, ListOptions.normalForm, List.map_map]
      exact congrArg Except.ok (List.map_congr_left fun f _ => f.parameter_eq)
  | select =>
      simp only [ListOptions.part, NormalForm.part, ListOptions.normalForm]
      by_cases filled : o.selections.truthy = true
      · simp only [filled, (shaped.selections.truthy).mp filled, ↓reduceIte,
          shaped.selections.join (Value.isNull_eq_false_of_truthy filled)]
        rfl
      · have empty : o.selections.texts = [] :=
          Decidable.not_not.mp fun some_text => filled (shaped.selections.truthy.mpr some_text)
        simp only [filled, empty, ↓reduceIte, Bool.false_eq_true]
  | skip =>
      exact congrArg Except.ok (page_getD "skip" _)
  | take =>
      exact congrArg Except.ok (page_getD "take" _)
  | relations =>
      simp only [ListOptions.part, NormalForm.part, ListOptions.normalForm]
      cases absent : o.relations.isNull with
      | true => rfl
      | false =>
          simp only [shaped.relations.join absent, Bool.false_eq_true, ↓reduceIte]
          rfl
  | preset =>
      simp only [ListOptions.part, NormalForm.part, ListOptions.normalForm]
      rcases shaped.sort with absent | ⟨p, same⟩
      · rw [absent]
        rfl
      · obtain ⟨found, some_sort⟩ := ofValue?_of_name same
        simp only [found, some_sort, Bool.false_eq_true, ↓reduceIte]
        rfl
  | sortBy =>
      simp only [ListOptions.part, NormalForm.part, ListOptions.normalForm]
      cases o.sortBy <;> rfl

theorem queryString_of_shaped {o : ListOptions} (shaped : o.Shaped) :
    queryString o = .ok (parametersText o.normalForm.parameters) := by
  have parts : o.part = fun s => pure (o.normalForm.part s) :=
    funext (part_eq_normalForm_part shaped)
  rw [queryString_eq, ListOptions.parameters, parts, List.mapM_pure]
  rfl

theorem mem_orEmptyText {ss : List String} {s : String} (member : s ∈ orEmptyText ss) :
    s = "" ∨ s ∈ ss := by
  cases ss with
  | nil => exact Or.inl (List.mem_singleton.mp member)
  | cons t ts => exact Or.inr member

theorem Filter.Shaped.readable {f : Filter} (shaped : f.Shaped) : f.condition.Readable := by
  obtain ⟨field, fieldText, ampersand, equals⟩ := shaped.field
  obtain ⟨operation, operationText⟩ := shaped.operation
  have fieldName : f.condition.field = field := by simp only [condition, fieldText, Value.plain]
  have operationName : f.condition.operation = operation := by
    simp only [condition, operationText, Value.plain]
  have isMember := isMembership_of_text operationText
  refine ⟨fieldName ▸ ampersand, fieldName ▸ equals,
    operationName ▸ known_of_text operationText, ?_, ?_, ?_⟩
  · intro other
    have single : f.isMembership = false :=
      Bool.eq_false_iff.mpr fun member => other (operationName ▸ isMember.mp member)
    exact ⟨render f.value, by simp only [condition, single, Bool.false_eq_true, ↓reduceIte],
      shaped.single single⟩
  · intro same
    have member := isMember.mpr (operationName ▸ same)
    simp only [condition, member, ↓reduceIte]
    cases f.operands.map renderItem <;> exact List.cons_ne_nil _ _
  · intro same s hs
    have member := isMember.mpr (operationName ▸ same)
    simp only [condition, member, ↓reduceIte] at hs
    rcases mem_orEmptyText hs with rfl | hs
    · exact ⟨by decide, by decide⟩
    · obtain ⟨v, hv, rfl⟩ := List.mem_map.mp hs
      exact shaped.items member v hv

theorem isCount_page {p? : Option Pagination} {bound : Pagination → Value}
    (each : ∀ p ∈ p?, IsCount (bound p)) : IsCount ((p?.map bound).getD .null) := by
  cases p? with
  | none => exact .null
  | some p => exact each p rfl

theorem ListOptions.Shaped.readable {o : ListOptions} (shaped : o.Shaped) :
    o.normalForm.Readable where
  conditions := by
    intro c member
    obtain ⟨f, hf, rfl⟩ := List.mem_map.mp member
    exact (shaped.filters f hf).readable
  selections := shaped.selections.texts
  skip := isCount_page fun p hp => (shaped.pagination p hp).1
  take := isCount_page fun p hp => (shaped.pagination p hp).2
  relations := by
    intro ss member
    simp only [ListOptions.normalForm, Option.mem_def] at member
    split at member
    · exact absurd member (Option.some_ne_none ss).symm
    · rw [← Option.some.inj member]
      exact shaped.relations.texts
  sortBy := by
    intro f member
    simp only [ListOptions.normalForm, Option.mem_def, Option.map_eq_some_iff] at member
    obtain ⟨s, hs, rfl⟩ := member
    obtain ⟨name, text, order⟩ := shaped.sortBy s hs
    simpa only [text, Value.plain] using order

end DocSpace.Query
