import DocSpace.Proofs.Number.Decimal
import DocSpace.Proofs.Success
import DocSpace.Proofs.Text.Pieces
import DocSpace.Query.Clauses

set_option autoImplicit false

namespace DocSpace.Query

open Text

abbrev Parameter := String × String

inductive Slot where
  | filters | select | skip | take | relations | preset | sortBy
  deriving DecidableEq

def Slot.all : List Slot := [.filters, .select, .skip, .take, .relations, .preset, .sortBy]

def Parameter.text (p : Parameter) : String := p.1 ++ "=" ++ p.2

def parametersText : List Parameter → String
  | [] => ""
  | p :: ps => "&" ++ Parameter.text p ++ parametersText ps

@[simp] theorem parametersText_nil : parametersText [] = "" := rfl

@[simp] theorem parametersText_cons (p : Parameter) (ps : List Parameter) :
    parametersText (p :: ps) = "&" ++ Parameter.text p ++ parametersText ps := rfl

@[simp] theorem parametersText_append (ps qs : List Parameter) :
    parametersText (ps ++ qs) = parametersText ps ++ parametersText qs := by
  induction ps with
  | nil => simp only [List.nil_append, parametersText_nil, String.empty_append]
  | cons p ps ih => simp only [List.cons_append, parametersText_cons, ih, String.append_assoc]

theorem toList_parametersText (ps : List Parameter) :
    (parametersText ps).toList =
      (ps.map fun p => (Parameter.text p).toList).flatMap ('&' :: ·) := by
  induction ps with
  | nil => rfl
  | cons p ps ih =>
      simp only [parametersText_cons, String.toList_append, ih, List.map_cons, List.flatMap_cons,
        List.cons_append]
      rfl

namespace Filter

def parameter (f : Filter) : Parameter :=
  ("$$" ++ f.field.plain, f.operation.plain ++ "||" ++ f.operand)

theorem fragment_eq (f : Filter) : f.fragment = Parameter.text f.parameter := by
  simp only [fragment, parameter, Parameter.text, String.append_assoc]

end Filter

def ListOptions.part (o : ListOptions) : Slot → Except Fault (List Parameter)
  | .filters => .ok ((o.filters.getD []).map Filter.parameter)
  | .select =>
    if o.selections.truthy then do return [("select", ← o.selections.join ",")] else .ok []
  | .skip => .ok (page "skip" (o.pagination.map (·.skip)))
  | .take => .ok (page "take" (o.pagination.map (·.take)))
  | .relations =>
    if o.relations.isNull then .ok [] else do return [("relations", ← o.relations.join ",")]
  | .preset =>
    if o.sort.isNull then .ok [] else
      match Preset.ofValue? o.sort with
      | some p => .ok [("sort", p.wireName)]
      | none => .error (.notASort o.sort)
  | .sortBy =>
    .ok (o.sortBy.map fun s =>
      ("sort", s.field.plain ++ if s.desc.truthy then "||desc" else "")).toList
where
  page (name : String) (v? : Option Value) : List Parameter :=
    match v? with
    | none | some .null => []
    | some v => [(name, v.plain)]

/-- All parameters in order; the first clause that fails decides. -/
def ListOptions.parameters (o : ListOptions) : Except Fault (List Parameter) :=
  (Slot.all.mapM o.part).map List.flatten

/-- Options have parameters just if every slot has. -/
theorem parameters_eq_ok {o : ListOptions} {ps : List Parameter} :
    o.parameters = .ok ps ↔
      ∃ parts : Slot → List Parameter, (∀ s, o.part s = .ok (parts s)) ∧
        ps = Slot.all.flatMap parts := by
  have every (s : Slot) : s ∈ Slot.all := by cases s <;> decide
  constructor
  · intro run
    obtain ⟨pss, each, rfl⟩ := map_eq_ok.mp run
    have given (s : Slot) : ∃ qs, o.part s = .ok qs := by
      obtain ⟨qs, _, own⟩ := exists_of_mapM_eq_ok each (every s)
      exact ⟨qs, own⟩
    choose parts given using given
    rw [mapM_eq_ok_map fun s _ => given s] at each
    exact ⟨parts, given, by rw [← Except.ok.inj each, List.flatMap_def]⟩
  · rintro ⟨parts, given, rfl⟩
    rw [ListOptions.parameters, mapM_eq_ok_map fun s _ => given s, List.flatMap_def]
    rfl

theorem known_of_text {f : Filter} {s : String} (operation : f.operation = .text s) :
    s ∈ operationNames := by
  have known := f.known
  simp only [isOperation, operation, Value.isText, Value.asText?, List.any_eq_true, beq_iff_eq,
    Option.some.injEq] at known
  obtain ⟨name, member, rfl⟩ := known
  exact member

theorem operation_marks {s : String} (known : s ∈ operationNames) :
    '&' ∉ s.toList ∧ '|' ∉ s.toList := by
  simp only [operationNames, List.mem_cons, List.not_mem_nil, or_false] at known
  rcases known with rfl | rfl | rfl <;> decide

/-- `null` or a whole number; truth values are whole numbers too. -/
inductive IsCount : Value → Prop where
  | null : IsCount .null
  | int (i : Int) : IsCount (.int i)
  | bool (b : Bool) : IsCount (.bool b)

/-- A count is written with digits, a sign and letters. -/
theorem IsCount.mem_plain {v : Value} (count : IsCount v) {c : Char}
    (member : c ∈ v.plain.toList) : c = '-' ∨ c.isAlphanum = true := by
  cases count with
  | null =>
      have letters : Value.null.plain.toList.all Char.isAlphanum = true := by decide
      exact Or.inr (List.all_eq_true.mp letters c member)
  | int i =>
      refine (Number.mem_intText member).imp_right fun digit => ?_
      rw [Char.isAlphanum, digit, Bool.or_true]
  | bool b =>
      have letters : ∀ b, (Value.bool b).plain.toList.all Char.isAlphanum = true := by decide
      exact Or.inr (List.all_eq_true.mp (letters b) c member)

theorem IsCount.ampersand {v : Value} (count : IsCount v) : '&' ∉ v.plain.toList :=
  fun member => absurd (count.mem_plain member) (by decide)

theorem mem_page {name : String} {v? : Option Value} {p : Parameter}
    (member : p ∈ ListOptions.part.page name v?) : ∃ v, v? = some v ∧ p = (name, v.plain) := by
  unfold ListOptions.part.page at member
  split at member
  · exact absurd member List.not_mem_nil
  · exact absurd member List.not_mem_nil
  · exact ⟨_, rfl, List.mem_singleton.mp member⟩

/-- Where the parameters of options come from, slot by slot. -/
inductive ListOptions.Gives (o : ListOptions) : Parameter → Prop where
  | filter {f : Filter} (given : f ∈ o.filters.getD []) : Gives o f.parameter
  | select {names : String} (filled : o.selections.truthy = true)
      (joined : o.selections.join "," = .ok names) : Gives o ("select", names)
  | skip {page : Pagination} (given : page ∈ o.pagination) : Gives o ("skip", page.skip.plain)
  | take {page : Pagination} (given : page ∈ o.pagination) : Gives o ("take", page.take.plain)
  | relations {names : String} (present : o.relations.isNull = false)
      (joined : o.relations.join "," = .ok names) : Gives o ("relations", names)
  | preset (preset : Preset) : Gives o ("sort", preset.wireName)
  | sortBy {order : SortBy} (given : order ∈ o.sortBy) :
      Gives o ("sort", order.field.plain ++ if order.desc.truthy then "||desc" else "")

theorem gives_of_mem_part {o : ListOptions} {slot : Slot} {ps : List Parameter}
    (part : o.part slot = .ok ps) {p : Parameter} (member : p ∈ ps) : o.Gives p := by
  cases slot with
  | filters =>
      rw [← Except.ok.inj part] at member
      obtain ⟨f, given, rfl⟩ := List.mem_map.mp member
      exact .filter given
  | select =>
      simp only [ListOptions.part] at part
      split at part
      · next filled =>
          obtain ⟨names, joined, same⟩ := bind_eq_ok.mp part
          rw [← Except.ok.inj same] at member
          obtain rfl := List.mem_singleton.mp member
          exact .select filled joined
      · rw [← Except.ok.inj part] at member
        exact absurd member List.not_mem_nil
  | skip =>
      rw [← Except.ok.inj part] at member
      obtain ⟨v, found, rfl⟩ := mem_page member
      obtain ⟨page, given, rfl⟩ := Option.map_eq_some_iff.mp found
      exact .skip given
  | take =>
      rw [← Except.ok.inj part] at member
      obtain ⟨v, found, rfl⟩ := mem_page member
      obtain ⟨page, given, rfl⟩ := Option.map_eq_some_iff.mp found
      exact .take given
  | relations =>
      simp only [ListOptions.part] at part
      split at part
      · rw [← Except.ok.inj part] at member
        exact absurd member List.not_mem_nil
      · next present =>
          obtain ⟨names, joined, same⟩ := bind_eq_ok.mp part
          rw [← Except.ok.inj same] at member
          obtain rfl := List.mem_singleton.mp member
          exact .relations (Bool.eq_false_iff.mpr present) joined
  | preset =>
      simp only [ListOptions.part] at part
      split at part
      · rw [← Except.ok.inj part] at member
        exact absurd member List.not_mem_nil
      · split at part
        · next preset _ =>
            rw [← Except.ok.inj part] at member
            obtain rfl := List.mem_singleton.mp member
            exact .preset preset
        · cases part
  | sortBy =>
      rw [← Except.ok.inj part] at member
      obtain ⟨order, given, rfl⟩ := Option.map_eq_some_iff.mp (Option.mem_toList.mp member)
      exact .sortBy given

theorem gives_of_mem_parameters {o : ListOptions} {ps : List Parameter}
    (given : o.parameters = .ok ps) {p : Parameter} (member : p ∈ ps) : o.Gives p := by
  obtain ⟨parts, each, rfl⟩ := parameters_eq_ok.mp given
  obtain ⟨slot, _, own⟩ := List.mem_flatMap.mp member
  exact gives_of_mem_part (each slot) own

theorem clause_eq (name value : String) :
    clause name value = parametersText [(name, value)] := by
  simp only [clause, parametersText_cons, parametersText_nil, Parameter.text, String.append_empty,
    String.append_assoc]

theorem filterClause_eq (fs : Option (List Filter)) :
    filterClause fs = parametersText ((fs.getD []).map Filter.parameter) := by
  have joined_eq (f : Filter) (fs : List Filter) :
      "&" ++ joined "&" ((f :: fs).map Filter.fragment) =
        parametersText ((f :: fs).map Filter.parameter) := by
    induction fs generalizing f with
    | nil =>
        simp only [List.map_cons, List.map_nil, joined, Filter.fragment_eq, parametersText_cons,
          parametersText_nil, String.append_empty]
    | cons g gs ih =>
        rw [List.map_cons (f := Filter.parameter), parametersText_cons, ← ih g,
          ← Filter.fragment_eq]
        simp only [List.map_cons, joined, String.append_assoc]
  cases fs with
  | none => rfl
  | some fs =>
      cases fs with
      | nil => rfl
      | cons f fs => exact joined_eq f fs

theorem selectClause_eq (o : ListOptions) :
    selectClause o.selections = (o.part .select).map parametersText := by
  simp only [selectClause, ListOptions.part]
  split
  · cases o.selections.join "," with
    | error f => rfl
    | ok s => exact congrArg Except.ok (clause_eq "select" s)
  · rfl

theorem pageClause_eq (name : String) (v : Value) :
    pageClause name v = parametersText (ListOptions.part.page name (some v)) := by
  cases v <;>
    simp only [pageClause, Value.isNull, ListOptions.part.page, clause_eq, parametersText_nil,
      ↓reduceIte, Bool.false_eq_true]

theorem paginationClause_eq (p : Option Pagination) :
    paginationClause p = parametersText (ListOptions.part.page "skip" (p.map (·.skip))) ++
      parametersText (ListOptions.part.page "take" (p.map (·.take))) := by
  cases p with
  | none => rfl
  | some p => simp only [paginationClause, pageClause_eq, Option.map_some]

theorem relationsClause_eq (o : ListOptions) :
    relationsClause o.relations = (o.part .relations).map parametersText := by
  simp only [relationsClause, ListOptions.part]
  split
  · rfl
  · cases o.relations.join "," with
    | error f => rfl
    | ok s => exact congrArg Except.ok (clause_eq "relations" s)

theorem presetClause_eq (o : ListOptions) :
    presetClause o.sort = (o.part .preset).map parametersText := by
  simp only [presetClause, ListOptions.part]
  split
  · rfl
  · cases Preset.ofValue? o.sort with
    | none => rfl
    | some p => exact congrArg Except.ok (clause_eq "sort" p.wireName)

theorem sortByClause_eq (s : Option SortBy) :
    sortByClause s = parametersText (s.map fun s =>
      ("sort", s.field.plain ++ if s.desc.truthy then "||desc" else "")).toList := by
  cases s with
  | none => rfl
  | some s => exact clause_eq "sort" _

/-- The query string is the text of the parameters, and fails as they do. -/
theorem queryString_eq (o : ListOptions) :
    queryString o = o.parameters.map parametersText := by
  simp only [queryString, ListOptions.parameters, Slot.all, List.mapM_cons, List.mapM_nil,
    selectClause_eq, relationsClause_eq, presetClause_eq, filterClause_eq, paginationClause_eq,
    sortByClause_eq]
  cases o.part .select with
  | error f => rfl
  | ok select =>
    cases o.part .relations with
    | error f => rfl
    | ok relations =>
      cases o.part .preset with
      | error f => rfl
      | ok preset =>
        refine congrArg Except.ok ?_
        simp only [List.flatten_cons, List.flatten_nil, List.append_nil, parametersText_append,
          String.append_assoc]

/-- What keeps a parameter's name, its value and the next parameter apart. -/
structure Parameter.Separable (p : Parameter) : Prop where
  name_ampersand : '&' ∉ p.1.toList
  name_equals : '=' ∉ p.1.toList
  value_ampersand : '&' ∉ p.2.toList

theorem Parameter.toList_text (p : Parameter) :
    p.text.toList = p.1.toList ++ '=' :: p.2.toList := by
  simp only [Parameter.text, String.toList_append, List.append_assoc]
  rfl

theorem Parameter.Separable.ampersand_not_mem {p : Parameter} (separable : p.Separable) :
    '&' ∉ p.text.toList := by
  rw [Parameter.toList_text, List.mem_append, List.mem_cons, not_or, not_or]
  exact ⟨separable.name_ampersand, by decide, separable.value_ampersand⟩

theorem Parameter.text_injective {p q : Parameter} (left : p.Separable) (right : q.Separable)
    (equal : p.text = q.text) : p = q := by
  have chars := congrArg String.toList equal
  rw [Parameter.toList_text, Parameter.toList_text] at chars
  obtain ⟨names, values⟩ :=
    append_cons_injective left.name_equals right.name_equals chars
  exact Prod.ext (String.toList_injective names) (String.toList_injective values)

theorem pieces_parametersText {ps : List Parameter} (each : ∀ p ∈ ps, '&' ∉ p.text.toList) :
    pieces '&' (parametersText ps).toList = [] :: ps.map (·.text.toList) := by
  rw [toList_parametersText]
  have nothing : '&' ∉ ([] : List Char) := List.not_mem_nil
  refine pieces_flatMap nothing _ ?_
  intro piece member
  obtain ⟨p, hp, rfl⟩ := List.mem_map.mp member
  exact each p hp

theorem parametersText_injective {ps qs : List Parameter} (left : ∀ p ∈ ps, p.Separable)
    (right : ∀ q ∈ qs, q.Separable) (equal : parametersText ps = parametersText qs) :
    ps = qs := by
  have cut := congrArg (fun s : String => pieces '&' s.toList) equal
  simp only [pieces_parametersText fun p hp => (left p hp).ampersand_not_mem,
    pieces_parametersText fun q hq => (right q hq).ampersand_not_mem,
    List.cons.injEq, true_and] at cut
  clear equal
  induction ps generalizing qs with
  | nil => exact (List.map_eq_nil_iff.mp cut.symm).symm
  | cons p ps ih =>
      cases qs with
      | nil => exact absurd cut (by simp)
      | cons q qs =>
          obtain ⟨head, tail⟩ := List.cons.inj cut
          rw [Parameter.text_injective (left p List.mem_cons_self) (right q List.mem_cons_self)
              (String.toList_injective head),
            ih (fun r hr => left r (List.mem_cons_of_mem p hr))
              (fun r hr => right r (List.mem_cons_of_mem q hr)) tail]

/-- The clause that a parameter comes from. Two clauses share the name `sort`, but only one has the
names of presets for values. -/
def Parameter.slot (p : Parameter) : Slot :=
  if p.1 = "select" then .select
  else if p.1 = "skip" then .skip
  else if p.1 = "take" then .take
  else if p.1 = "relations" then .relations
  else if p.1 = "sort" then
    if p.2 ∈ Preset.all.map Preset.wireName then .preset else .sortBy
  else .filters

/-- Parameters that are each in their own slot are found again by it. -/
theorem filter_slot_flatMap {parts : Slot → List Parameter}
    (own : ∀ s, ∀ p ∈ parts s, p.slot = s) (s : Slot) :
    (Slot.all.flatMap parts).filter (fun p => p.slot = s) = parts s := by
  have other (t : Slot) :
      (parts t).filter (fun p => p.slot = s) = if t = s then parts t else [] := by
    split
    · next same => exact List.filter_eq_self.mpr fun p hp => by simp [own t p hp, same]
    · next differ => exact List.filter_eq_nil_iff.mpr fun p hp => by simp [own t p hp, differ]
  rw [List.filter_flatMap]
  cases s <;> simp [Slot.all, other]

theorem parts_injective {parts parts' : Slot → List Parameter}
    (own : ∀ s, ∀ p ∈ parts s, p.slot = s) (own' : ∀ s, ∀ p ∈ parts' s, p.slot = s)
    (equal : Slot.all.flatMap parts = Slot.all.flatMap parts') (s : Slot) :
    parts s = parts' s := by
  rw [← filter_slot_flatMap own s, equal, filter_slot_flatMap own' s]

end DocSpace.Query
