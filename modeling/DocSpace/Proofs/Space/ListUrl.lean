import DocSpace.Proofs.Query.Parameter
import DocSpace.Proofs.Schema.Check
import DocSpace.Space.Model

set_option autoImplicit false

namespace DocSpace

open Query Text

/-- A name that no mark of the query string ends. -/
structure IsFieldName (s : String) : Prop where
  ampersand : '&' ∉ s.toList
  equals : '=' ∉ s.toList
  bar : '|' ∉ s.toList
  comma : ',' ∉ s.toList

/-- Options whose names are plain texts and whose filter values leave their parameter whole. -/
structure Query.ListOptions.Plain (o : ListOptions) : Prop where
  field : ∀ f ∈ o.filters.getD [], ∃ s, f.field = .text s
  operation : ∀ f ∈ o.filters.getD [], ∃ s, f.operation = .text s
  operand : ∀ f ∈ o.filters.getD [], '&' ∉ f.operand.toList
  selections : o.selections.AreTexts fun _ => True
  relations : o.relations.AreTexts fun _ => True
  pagination : ∀ p ∈ o.pagination, IsCount p.skip ∧ IsCount p.take
  sortBy : ∀ s ∈ o.sortBy, ∃ f, s.field = .text f

/-- Parameters that name fields of a schema, in the grammar of the service. -/
inductive Declared (s : Schema) : String → Prop where
  | filter {name operation : String} (operand : String) (field : s.contains name = true)
      (known : operation ∈ operationNames) :
      Declared s ("$$" ++ name ++ "=" ++ operation ++ "||" ++ operand)
  | select {names : String}
      (fields : ∀ n ∈ pieces ',' names.toList, s.contains (String.ofList n) = true) :
      Declared s ("select=" ++ names)
  | relations {names : String}
      (fields : names = "" ∨ ∀ n ∈ pieces ',' names.toList, s.contains (String.ofList n) = true) :
      Declared s ("relations=" ++ names)
  | skip (count : String) : Declared s ("skip=" ++ count)
  | take (count : String) : Declared s ("take=" ++ count)
  | preset (p : Preset) : Declared s ("sort=" ++ p.wireName)
  | ascending {name : String} (field : s.contains name = true) : Declared s ("sort=" ++ name)
  | descending {name : String} (field : s.contains name = true) :
      Declared s ("sort=" ++ (name ++ "||desc"))

variable {s : Schema} {o : ListOptions}

theorem isFieldName_of_contains {t : DocumentType} {n : String}
    (made : Schema.ofType t = .ok s) (free : ∀ n ∈ t.declaredNames, IsFieldName n)
    (field : s.contains n = true) : IsFieldName n := by
  rcases Schema.contains_of_ofType made field with declared | rfl
  · exact free n declared
  · exact ⟨by decide, by decide, by decide, by decide⟩

theorem contains_of_mem_pieces {names : List String} (some_name : names ≠ [])
    (fields : ∀ n ∈ names, s.contains n = true) (free : ∀ n ∈ names, IsFieldName n) :
    ∀ n ∈ pieces ',' (joined "," names).toList, s.contains (String.ofList n) = true := by
  rw [pieces_joined (by decide) some_name fun n hn => (free n hn).comma]
  intro n member
  obtain ⟨name, hname, rfl⟩ := List.mem_map.mp member
  rw [String.ofList_toList]
  exact fields name hname

theorem ampersand_text {name value : String} (plain : '&' ∉ name.toList)
    (free : '&' ∉ value.toList) : '&' ∉ (Parameter.text (name, value)).toList := by
  rw [Parameter.toList_text, List.mem_append, List.mem_cons, not_or, not_or]
  exact ⟨plain, by decide, free⟩

/-- Parameters that name fields of a schema and end where the next one starts. -/
structure Stated (s : Schema) (p : Parameter) : Prop where
  declared : Declared s p.text
  whole : '&' ∉ p.text.toList

section Slots

variable {p : Parameter} (free : ∀ n, s.contains n = true → IsFieldName n)

include free

theorem stated_filter {f : Filter} {name operation : String} (text : f.field = .text name)
    (word : f.operation = .text operation) (operand : '&' ∉ f.operand.toList)
    (field : s.contains name = true) : Stated s f.parameter where
  declared := by
    have shape : f.parameter.text = "$$" ++ name ++ "=" ++ operation ++ "||" ++ f.operand := by
      simp only [Filter.parameter, Parameter.text, text, word, Value.plain, String.append_assoc]
    rw [shape]
    exact .filter f.operand field (known_of_text word)
  whole := by
    have marks := (operation_marks (known_of_text word)).1
    simp only [Parameter.toList_text, Filter.parameter, text, word, Value.plain,
      String.toList_append, List.mem_append, List.mem_cons, not_or]
    exact ⟨⟨by decide, (free name field).ampersand⟩, by decide, ⟨marks, by decide⟩, operand⟩

/-- Joined fields stay in one parameter. -/
theorem ampersand_names {name : String} (mark : '&' ∉ name.toList) {names : List String}
    (fields : ∀ n ∈ names, s.contains n = true) :
    '&' ∉ (Parameter.text (name, joined "," names)).toList :=
  ampersand_text mark
    (not_mem_joined (by decide) fun n hn => (free n (fields n hn)).ampersand)

theorem stated_select {names : List String} (some_name : names ≠ [])
    (fields : ∀ n ∈ names, s.contains n = true) : Stated s ("select", joined "," names) where
  declared := .select (contains_of_mem_pieces some_name fields fun n hn => free n (fields n hn))
  whole := ampersand_names free (by decide) fields

theorem stated_relations {names : List String} (fields : ∀ n ∈ names, s.contains n = true) :
    Stated s ("relations", joined "," names) where
  declared := by
    apply Declared.relations
    by_cases empty : names = []
    · exact Or.inl (by rw [empty]; rfl)
    · exact Or.inr (contains_of_mem_pieces empty fields fun n hn => free n (fields n hn))
  whole := ampersand_names free (by decide) fields

theorem stated_sortBy {name : String} (field : s.contains name = true) (desc : Bool) :
    Stated s ("sort", name ++ if desc then "||desc" else "") := by
  have ampersand := (free name field).ampersand
  cases desc with
  | false =>
      simp only [Bool.false_eq_true, ↓reduceIte, String.append_empty]
      exact ⟨.ascending field, ampersand_text (by decide) ampersand⟩
  | true =>
      refine ⟨.descending field, ampersand_text (by decide) ?_⟩
      simpa only [↓reduceIte, String.toList_append, List.mem_append, not_or]
        using ⟨ampersand, by decide⟩

/-- What options give, if all their names are fields. -/
theorem stated_of_gives (plain : o.Plain) (fields : ∀ n ∈ o.fieldNames, s.contains n = true)
    (given : o.Gives p) : Stated s p := by
  simp only [QueryOptions.fieldNames, List.mem_append, or_imp, forall_and] at fields
  obtain ⟨⟨⟨filterFields, selections⟩, relations⟩, orderField⟩ := fields
  cases given with
  | @filter f own =>
      obtain ⟨name, text⟩ := plain.field f own
      obtain ⟨operation, word⟩ := plain.operation f own
      have field : s.contains name = true :=
        filterFields name (List.mem_filterMap.mpr ⟨f, own, by rw [text]; rfl⟩)
      exact stated_filter free text word (plain.operand f own) field
  | select filled names =>
      rw [plain.selections.join (Value.isNull_eq_false_of_truthy filled)] at names
      obtain rfl := Except.ok.inj names
      exact stated_select free (plain.selections.truthy.mp filled) selections
  | @skip page own =>
      exact ⟨.skip _, ampersand_text (by decide) (plain.pagination page own).1.ampersand⟩
  | @take page own =>
      exact ⟨.take _, ampersand_text (by decide) (plain.pagination page own).2.ampersand⟩
  | relations present names =>
      rw [plain.relations.join present] at names
      obtain rfl := Except.ok.inj names
      exact stated_relations free relations
  | preset preset =>
      exact ⟨.preset preset, ampersand_text (by decide) (by cases preset <;> decide)⟩
  | @sortBy order own =>
      obtain ⟨name, text⟩ := plain.sortBy order own
      have field : s.contains name = true := orderField name
        (List.mem_filterMap.mpr ⟨order, Option.mem_toList.mpr own, by rw [text]; rfl⟩)
      rw [text]
      exact stated_sortBy free field order.desc.truthy

end Slots

theorem listUrl_eq_ok {m : Model} (typed : m.schema = some s) {url : String}
    (built : m.listUrl (some o) = .ok url) :
    s.check o.toQueryOptions = .ok () ∧
      ∃ ps, o.parameters = .ok ps ∧ url = m.collectionUrl ++ parametersText ps := by
  unfold Model.listUrl at built
  rw [typed] at built
  obtain ⟨_, passed, built⟩ := bind_eq_ok.mp built
  obtain ⟨q, compiled, same⟩ := bind_eq_ok.mp (lift_eq_ok.mp built)
  rw [queryString_eq] at compiled
  obtain ⟨ps, given, rfl⟩ := map_eq_ok.mp compiled
  exact ⟨passed, ps, given, (Except.ok.inj same).symm⟩

/-- The URL of a list names declared fields only, and options that name anything else have none. -/
theorem listUrl_names_declared_fields {settings : ConnectionSettings} {id : Value}
    {t : DocumentType} {m : Model} (made : Schema.ofType t = .ok s)
    (client : Model.make settings id (some t) = .ok m)
    (free : ∀ n ∈ t.declaredNames, IsFieldName n) (plain : o.Plain) :
    (∀ url, m.listUrl (some o) = .ok url →
      ∃ query parameters, url = m.collectionUrl ++ query ∧
        pieces '&' query.toList = [] :: parameters ∧
        ∀ p ∈ parameters, Declared s (String.ofList p)) ∧
    ((∃ n ∈ o.fieldNames, s.contains n = false) → ∃ f, m.listUrl (some o) = .error f) := by
  have typed : m.schema = some s := by
    have schema : (some t).mapM Schema.ofType = .ok (some s) := by
      rw [Option.mapM_some, made]
      rfl
    rw [Model.make, schema] at client
    rw [← Except.ok.inj client]
  have names (url : String) (built : m.listUrl (some o) = .ok url) :
      ∀ n ∈ o.fieldNames, s.contains n = true :=
    Schema.contains_of_check plain.selections plain.relations (listUrl_eq_ok typed built).1
  constructor
  · intro url built
    obtain ⟨_, ps, given, rfl⟩ := listUrl_eq_ok typed built
    have each (p : Parameter) (member : p ∈ ps) : Stated s p :=
      stated_of_gives (fun n field => isFieldName_of_contains made free field) plain
        (names _ built) (gives_of_mem_parameters given member)
    refine ⟨parametersText ps, ps.map (·.text.toList), rfl,
      pieces_parametersText fun p member => (each p member).whole, ?_⟩
    intro piece member
    obtain ⟨p, hp, rfl⟩ := List.mem_map.mp member
    rw [String.ofList_toList]
    exact (each p hp).declared
  · rintro ⟨n, member, undeclared⟩
    refine exists_error_of_ne_ok fun url built => ?_
    exact absurd (names url built n member) (by rw [undeclared]; exact Bool.false_ne_true)

def taskType : DocumentType where
  own := ⟨.mapping, "Task", [("done", .hint (.plain .bool))]⟩
  bases := [⟨.mapping, "Named", [("title", .hint (.plain .text))]⟩]

def taskSchema : Schema where
  name := "Task"
  fields := [("title", .plain .text), ("done", .plain .bool), ("ID", .plain .text)]

def taskModel : Model := ⟨"https://h/acme/tasks", .text "k", some taskSchema⟩

def taskOptions : ListOptions where
  selections := .list [.text "title", .text "ID"]
  filters := some [⟨.text "title", .text "LIKE", .text "a=b", by decide, by decide⟩]
  relations := .list []
  sort := .text "latest_first"
  sortBy := some ⟨.text "done", .bool true⟩
  pagination := some ⟨.null, .int 5⟩

theorem isFieldName_taskType : ∀ n ∈ taskType.declaredNames, IsFieldName n := by
  intro n member
  have either : n = "title" ∨ n = "done" := by
    simpa [taskType, DocumentType.declaredNames, DocumentType.declarations, Named.names]
      using member
  rcases either with rfl | rfl <;> exact ⟨by decide, by decide, by decide, by decide⟩

theorem plain_taskOptions : taskOptions.Plain where
  field := by
    intro f member
    obtain rfl := List.mem_singleton.mp member
    exact ⟨"title", rfl⟩
  operation := by
    intro f member
    obtain rfl := List.mem_singleton.mp member
    exact ⟨"LIKE", rfl⟩
  operand := by
    intro f member
    obtain rfl := List.mem_singleton.mp member
    decide
  selections := by
    refine Or.inr ⟨_, rfl, ?_⟩
    intro w member
    simp only [List.mem_cons, List.not_mem_nil, or_false] at member
    rcases member with rfl | rfl
    · exact ⟨"title", rfl, trivial⟩
    · exact ⟨"ID", rfl, trivial⟩
  relations := Or.inr ⟨[], rfl, fun w member => absurd member List.not_mem_nil⟩
  pagination := by
    rintro p ⟨⟩
    exact ⟨.null, .int 5⟩
  sortBy := by
    rintro s ⟨⟩
    exact ⟨"done", rfl⟩

theorem task_listUrl_names_declared_fields :
    taskOptions.Plain ∧ (∀ n ∈ taskType.declaredNames, IsFieldName n) ∧
      taskModel.listUrl (some taskOptions) = .ok ("https://h/acme/tasks?apiKey=k" ++
        "&$$title=LIKE||a=b&select=title,ID&take=5&relations=&sort=latest_first&sort=done||desc") ∧
      ∃ query parameters,
        "https://h/acme/tasks?apiKey=k" ++
          "&$$title=LIKE||a=b&select=title,ID&take=5&relations=&sort=latest_first&sort=done||desc" =
            taskModel.collectionUrl ++ query ∧
        pieces '&' query.toList = [] :: parameters ∧
        ∀ p ∈ parameters, Declared taskSchema (String.ofList p) := by
  have made : Schema.ofType taskType = .ok taskSchema := rfl
  have client : Model.make ⟨.text "acme", .text "k", "https://h", .int 5, .text "INFO", .info⟩
      (.text "tasks") (some taskType) = .ok taskModel := rfl
  exact ⟨plain_taskOptions, isFieldName_taskType, rfl,
    (listUrl_names_declared_fields made client isFieldName_taskType plain_taskOptions).1 _ rfl⟩

end DocSpace
