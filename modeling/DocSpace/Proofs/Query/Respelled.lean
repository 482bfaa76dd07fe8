import DocSpace.Proofs.Query.Parameter
import DocSpace.Proofs.Value.Sequence

set_option autoImplicit false

namespace DocSpace

open Text

section Stops

/-- Marks that end the name of a field and that of an operation. -/
def isStop (c : Char) : Bool := c == '=' || c == '|'

def stops (cs : List Char) : Nat := cs.countP isStop

theorem stops_append (cs ds : List Char) : stops (cs ++ ds) = stops cs + stops ds :=
  List.countP_append

theorem stops_cons (c : Char) (cs : List Char) :
    stops (c :: cs) = (if isStop c then 1 else 0) + stops cs := by
  rw [stops, List.countP_cons, Nat.add_comm]
  rfl

theorem not_mem_of_stops_eq_zero {cs : List Char} (free : stops cs = 0) {c : Char}
    (stop : isStop c = true) : c ∉ cs :=
  fun member => absurd stop (List.countP_eq_zero.mp free c member)

end Stops

namespace Value

/-- A name, or a member of a class that has the name for its value. Names of classes and members
hold no marks. -/
inductive Respells : Value → Value → Prop where
  | same (v : Value) : Respells v v
  | member {enum name : String} (plain : stops (memberName enum name).toList = 0) (s : String) :
      Respells (.text s) (.textMember enum name s)

/-- A sequence of names, each of which may be a member instead. -/
inductive RespellsEach : Value → Value → Prop where
  | same (v : Value) : RespellsEach v v
  | list {vs ws : List Value} (each : List.Forall₂ Respells vs ws) :
      RespellsEach (.list vs) (.list ws)
  | tuple {vs ws : List Value} (each : List.Forall₂ Respells vs ws) :
      RespellsEach (.tuple vs) (.tuple ws)
  | dict {es fs : List (Value × Value)}
      (each : List.Forall₂ (fun e f => e.1.Respells f.1 ∧ f.2 = e.2) es fs) :
      RespellsEach (.dict es) (.dict fs)

variable {v w : Value}

theorem Respells.asText?_eq (respells : Respells v w) : w.asText? = v.asText? := by
  cases respells <;> rfl

theorem Respells.isText_eq (respells : Respells v w) (s : String) : w.isText s = v.isText s := by
  rw [isText, isText, respells.asText?_eq]

/-- A member is shown without marks, so it never has more of them than its value. -/
theorem Respells.stops_le (respells : Respells v w) :
    stops w.plain.toList ≤ stops v.plain.toList := by
  cases respells with
  | same v => exact Nat.le_refl _
  | @member enum name plain s =>
      have shown : stops (textMember enum name s).plain.toList = 0 := plain
      rw [shown]
      exact Nat.zero_le _

/-- A name ends at the mark behind it if it has as many marks as the value. -/
theorem Respells.plain_eq_of_append (respells : Respells v w)
    (count : stops w.plain.toList = stops v.plain.toList) {c : Char} (stop : isStop c = true)
    {xs ys : List Char}
    (equal : w.plain.toList ++ c :: ys = v.plain.toList ++ c :: xs) :
    w.plain = v.plain ∧ ys = xs := by
  cases respells with
  | same v => exact ⟨rfl, (List.cons.inj (List.append_cancel_left equal)).2⟩
  | @member enum name plain s =>
      have left : stops (textMember enum name s).plain.toList = 0 := plain
      have right : stops (text s).plain.toList = 0 := count.symm.trans left
      obtain ⟨names, rest⟩ := append_cons_injective (not_mem_of_stops_eq_zero left stop)
        (not_mem_of_stops_eq_zero right stop) equal
      exact ⟨String.toList_injective names, rest⟩

theorem textsFrom_eq_of_respells {vs ws : List Value} (each : List.Forall₂ Respells vs ws)
    (index : Nat) : textsFrom index ws = textsFrom index vs := by
  induction each generalizing index with
  | nil => rfl
  | @cons v w vs ws head _ ih =>
      cases head with
      | same v => simp only [textsFrom, ih]
      | member plain s => simp only [textsFrom, asText?, ih]

theorem RespellsEach.truthy_eq (respells : RespellsEach v w) : w.truthy = v.truthy := by
  cases respells with
  | same v => rfl
  | list each => cases each <;> rfl
  | tuple each => cases each <;> rfl
  | dict each => cases each <;> rfl

theorem RespellsEach.isNull_eq (respells : RespellsEach v w) : w.isNull = v.isNull := by
  cases respells <;> rfl

/-- Two spellings of names are one value, or their parts are spellings of each other. -/
theorem RespellsEach.eq_or_items? (respells : RespellsEach v w) :
    w = v ∨ ∃ vs ws, v.items? = some vs ∧ w.items? = some ws ∧ List.Forall₂ Respells vs ws := by
  cases respells with
  | same v => exact .inl rfl
  | list each | tuple each => exact .inr ⟨_, _, rfl, rfl, each⟩
  | dict each =>
      refine .inr ⟨_, _, rfl, rfl, ?_⟩
      rw [List.forall₂_map_left_iff, List.forall₂_map_right_iff]
      exact each.imp fun _ _ both => both.1

theorem RespellsEach.join_eq (respells : RespellsEach v w) (sep : String) :
    w.join sep = v.join sep := by
  rcases respells.eq_or_items? with rfl | ⟨vs, ws, parts, others, each⟩
  · rfl
  · rw [join, join, parts, others]
    simp only [textsFrom_eq_of_respells each]

end Value

namespace Query

/-- A filter of the same value, whose names may be members instead. -/
structure Filter.Respells (f g : Filter) : Prop where
  field : f.field.Respells g.field
  operation : f.operation.Respells g.operation
  value : g.value = f.value

structure SortBy.Respells (s t : SortBy) : Prop where
  field : s.field.Respells t.field
  desc : t.desc = s.desc

/-- The same options, any names of which may be given as members instead. -/
structure ListOptions.Respells (o o' : ListOptions) : Prop where
  filters : List.Forall₂ Filter.Respells (o.filters.getD []) (o'.filters.getD [])
  selections : o.selections.RespellsEach o'.selections
  relations : o.relations.RespellsEach o'.relations
  sortBy : Option.Rel SortBy.Respells o.sortBy o'.sortBy
  sort : o'.sort = o.sort
  pagination : o'.pagination = o.pagination

/-- The operation is the same text still, and the field looks the same. -/
structure Filter.ShownAs (f g : Filter) : Prop where
  field : g.field.plain = f.field.plain
  operation : g.operation = f.operation

variable {f g : Filter} {o o' : ListOptions}

/-- No member of a class is shown as an operation is. -/
theorem eq_of_isOperation {v w : Value} (respells : v.Respells w) (known : isOperation v = true)
    (shown : w.plain = v.plain) : w = v := by
  cases respells with
  | same v => rfl
  | @member enum name plain s =>
      have dot : '.' ∈ s.toList := by
        have same : enum ++ "." ++ name = s := shown
        rw [← same, String.toList_append, String.toList_append]
        exact List.mem_append_left _ (List.mem_append_right _ List.mem_cons_self)
      simp only [isOperation, operationNames, Value.isText, Value.asText?, List.any_cons,
        List.any_nil, Bool.or_false, Bool.or_eq_true, beq_iff_eq, Option.some.injEq] at known
      rcases known with rfl | rfl | rfl <;> exact absurd dot (by decide)

theorem Filter.exists_respells (f : Filter) {field operation : Value}
    (named : f.field.Respells field) (asked : f.operation.Respells operation) :
    ∃ g : Filter, f.Respells g ∧ g.field = field ∧ g.operation = operation := by
  have same : isOperation operation = isOperation f.operation :=
    congrArg operationNames.any (funext asked.isText_eq)
  have known : isOperation operation = true := same.trans f.known
  have shaped : f.value.isSequence = operation.isText membership :=
    f.shaped.trans (asked.isText_eq membership).symm
  exact ⟨⟨field, operation, f.value, known, shaped⟩, ⟨named, asked, rfl⟩, rfl, rfl⟩

theorem Filter.Respells.isMembership_eq (respells : f.Respells g) :
    g.isMembership = f.isMembership :=
  respells.operation.isText_eq membership

theorem Filter.Respells.operands_eq (respells : f.Respells g) : g.operands = f.operands := by
  rw [operands, operands, respells.isMembership_eq, respells.value]

theorem Filter.Respells.operand_eq (respells : f.Respells g) : g.operand = f.operand := by
  rw [operand, operand, respells.isMembership_eq, respells.operands_eq, respells.value]

theorem Filter.Respells.parameter_eq (respells : f.Respells g) (shown : f.ShownAs g) :
    g.parameter = f.parameter := by
  rw [parameter, parameter, shown.field, shown.operation, respells.operand_eq]

section Filters

variable {fs gs : List Filter}

def filtersText (fs : List Filter) : List Char :=
  (parametersText (fs.map Filter.parameter)).toList

theorem filtersText_cons (f : Filter) (fs : List Filter) :
    filtersText (f :: fs) = '&' :: '$' :: '$' :: (f.field.plain.toList ++
      '=' :: (f.operation.plain.toList ++ '|' :: '|' :: (f.operand.toList ++ filtersText fs))) := by
  simp [filtersText, Parameter.text, Filter.parameter]

theorem stops_filtersText_cons (f : Filter) (fs : List Filter) :
    stops (filtersText (f :: fs)) = stops f.field.plain.toList +
      stops f.operation.plain.toList + stops f.operand.toList + stops (filtersText fs) + 3 := by
  have dollar : isStop '$' = false := rfl
  have ampersand : isStop '&' = false := rfl
  have equals : isStop '=' = true := rfl
  have bar : isStop '|' = true := rfl
  simp only [filtersText_cons, stops_append, stops_cons, dollar, ampersand, equals, bar,
    Bool.false_eq_true, ↓reduceIte]
  omega

theorem stops_filtersText_le (each : List.Forall₂ Filter.Respells fs gs) :
    stops (filtersText gs) ≤ stops (filtersText fs) := by
  induction each with
  | nil => exact Nat.le_refl _
  | @cons f g fs gs head _ ih =>
      have field := head.field.stops_le
      have operation := head.operation.stops_le
      rw [stops_filtersText_cons, stops_filtersText_cons, head.operand_eq]
      omega

/-- Since no name gains marks, texts of filters that are the same have as many marks in every name,
so each name ends where the one does that it stands for. -/
theorem shownAs_of_append_eq (each : List.Forall₂ Filter.Respells fs gs) {xs ys : List Char}
    (fewer : stops ys ≤ stops xs) (equal : filtersText gs ++ ys = filtersText fs ++ xs) :
    List.Forall₂ Filter.ShownAs fs gs ∧ ys = xs := by
  induction each with
  | nil => exact ⟨.nil, equal⟩
  | @cons f g fs gs head tail ih =>
      have field := head.field.stops_le
      have operation := head.operation.stops_le
      have rest := stops_filtersText_le tail
      have total := congrArg stops equal
      rw [stops_append, stops_append, stops_filtersText_cons, stops_filtersText_cons,
        head.operand_eq] at total
      -- The marks add up to the same total and no part has gained any, so each has kept its own.
      have fieldCount : stops g.field.plain.toList = stops f.field.plain.toList := by omega
      have operationCount : stops g.operation.plain.toList = stops f.operation.plain.toList := by
        omega
      simp only [filtersText_cons, List.cons_append, List.append_assoc, List.cons.injEq,
        true_and] at equal
      obtain ⟨fields, equal⟩ := head.field.plain_eq_of_append fieldCount rfl equal
      obtain ⟨operations, equal⟩ := head.operation.plain_eq_of_append operationCount rfl equal
      rw [head.operand_eq, List.cons.injEq] at equal
      obtain ⟨shown, same⟩ := ih (List.append_cancel_left equal.2)
      exact ⟨.cons ⟨fields, eq_of_isOperation head.operation f.known operations⟩ shown, same⟩

end Filters

/-- The same names are shown outside of selections and relations, where they are joined. -/
structure ListOptions.ShownAs (o o' : ListOptions) : Prop where
  filters : List.Forall₂ Filter.ShownAs (o.filters.getD []) (o'.filters.getD [])
  sortBy : Option.Rel (fun s t => t.field.plain = s.field.plain) o.sortBy o'.sortBy

theorem toList_filterClause (fs : Option (List Filter)) :
    (filterClause fs).toList = filtersText (fs.getD []) := by
  rw [filterClause_eq, filtersText]

theorem stops_sortByClause_le {s t : Option SortBy} (rel : Option.Rel SortBy.Respells s t) :
    stops (sortByClause t).toList ≤ stops (sortByClause s).toList := by
  cases rel with
  | none => exact Nat.le_refl _
  | @some s t respells =>
      have field := respells.field.stops_le
      simp only [sortByClause, clause, respells.desc, String.toList_append, stops_append]
      omega

theorem sortByClause_eq_iff {s t : Option SortBy} (rel : Option.Rel SortBy.Respells s t) :
    sortByClause t = sortByClause s ↔
      Option.Rel (fun s t => t.field.plain = s.field.plain) s t := by
  cases rel with
  | none => exact iff_of_true rfl .none
  | @some s t respells =>
      simp only [sortByClause, clause, respells.desc, String.append_right_inj,
        String.append_left_inj]
      constructor
      · exact fun same => .some same
      · rintro (same | _)
        exact same

/-- Clauses of names stand at both ends of a query string, and what is between them is the same. -/
theorem clauses_eq_iff (respells : o.Respells o') (between : String) :
    filterClause o'.filters ++ between ++ sortByClause o'.sortBy =
      filterClause o.filters ++ between ++ sortByClause o.sortBy ↔ o.ShownAs o' := by
  constructor
  · intro equal
    have chars := congrArg String.toList equal
    simp only [String.toList_append, toList_filterClause, List.append_assoc] at chars
    have fewer : stops (between.toList ++ (sortByClause o'.sortBy).toList) ≤
        stops (between.toList ++ (sortByClause o.sortBy).toList) := by
      rw [stops_append, stops_append]
      exact Nat.add_le_add_left (stops_sortByClause_le respells.sortBy) _
    obtain ⟨filters, rest⟩ := shownAs_of_append_eq respells.filters fewer chars
    have order := String.toList_injective (List.append_cancel_left rest)
    exact ⟨filters, (sortByClause_eq_iff respells.sortBy).mp order⟩
  · intro shown
    have parameters : (o'.filters.getD []).map Filter.parameter =
        (o.filters.getD []).map Filter.parameter := by
      have each := respells.filters.mp (fun f g head same => head.parameter_eq same) shown.filters
      rw [← List.forall₂_eq_eq_eq, List.forall₂_map_left_iff, List.forall₂_map_right_iff]
      exact each.flip
    rw [filterClause_eq, filterClause_eq, parameters,
      (sortByClause_eq_iff respells.sortBy).mpr shown.sortBy]

/-- A query without a query string fails as before. -/
theorem queryString_eq_iff_shownAs (respells : o.Respells o') :
    queryString o' = queryString o ↔ (∃ f, queryString o = .error f) ∨ o.ShownAs o' := by
  have select : selectClause o'.selections = selectClause o.selections := by
    rw [selectClause, selectClause, respells.selections.truthy_eq, respells.selections.join_eq]
  have relations : relationsClause o'.relations = relationsClause o.relations := by
    rw [relationsClause, relationsClause, respells.relations.isNull_eq,
      respells.relations.join_eq]
  rw [queryString, queryString, select, relations, respells.sort, respells.pagination]
  cases selectClause o.selections with
  | error f => exact iff_of_true rfl (.inl ⟨f, rfl⟩)
  | ok select =>
      cases relationsClause o.relations with
      | error f => exact iff_of_true rfl (.inl ⟨f, rfl⟩)
      | ok relations =>
          cases presetClause o.sort with
          | error f => exact iff_of_true rfl (.inl ⟨f, rfl⟩)
          | ok preset =>
              have clauses := clauses_eq_iff respells
                (select ++ paginationClause o.pagination ++ relations ++ preset)
              simp only [← String.append_assoc] at clauses
              constructor
              · intro same
                exact .inr (clauses.mp (Except.ok.inj same))
              · rintro (⟨f, impossible⟩ | shown)
                · cases impossible
                · exact congrArg Except.ok (clauses.mpr shown)

end Query

end DocSpace
