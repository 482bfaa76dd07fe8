import DocSpace.Proofs.Space.Prepare

set_option autoImplicit false

namespace DocSpace

open Http Text

def route (name id : String) : String := name ++ if id = "" then "" else "/" ++ id

theorem route_empty (name : String) : route name "" = name := String.append_empty

theorem toList_route {id : String} (filled : id ≠ "") (name : String) :
    (route name id).toList = name.toList ++ '/' :: id.toList := by
  rw [route, if_neg filled, String.toList_append, String.toList_append]
  rfl

/-- A name without slashes is no route into another. -/
theorem route_ne_of_plain {name : String} (plain : '/' ∉ name.toList) {id : String}
    (filled : id ≠ "") (other : String) : name ≠ route other id := by
  intro same
  apply plain
  rw [same, toList_route filled]
  exact List.mem_append_right _ List.mem_cons_self

theorem route_injective {name name' id id' : String} (plain : '/' ∉ name.toList)
    (plain' : '/' ∉ name'.toList) (same : route name id = route name' id') :
    name = name' ∧ id = id' := by
  by_cases empty : id = ""
  · subst empty
    rw [route_empty] at same
    by_cases empty' : id' = ""
    · subst empty'
      exact ⟨same.trans (route_empty name'), rfl⟩
    · exact absurd same (route_ne_of_plain plain empty' name')
  · by_cases empty' : id' = ""
    · subst empty'
      rw [route_empty] at same
      exact absurd same.symm (route_ne_of_plain plain' empty name)
    · have chars := congrArg String.toList same
      rw [toList_route empty, toList_route empty'] at chars
      obtain ⟨names, ids⟩ := append_cons_injective plain plain' chars
      exact ⟨String.toList_injective names, String.toList_injective ids⟩

namespace Model

variable {settings : ConnectionSettings} {name name' : String} {type type' : Option DocumentType}
  {m m' : Model}

/-- All places of a space have what is in front of the route in common, and all URLs have the same
key. -/
theorem url_text_eq (made : make settings (.text name) type = .ok m) (id : String) :
    m.url (.text id) = settings.baseUrl ++ "/" ++ settings.spaceName.plain ++ "/" ++
      route name id ++ "?apiKey=" ++ settings.apiKey.plain := by
  obtain ⟨schema, _, rfl⟩ := make_eq_ok.mp made
  have filled : (Value.text id).truthy = true ↔ id ≠ "" := bne_iff_ne
  by_cases empty : id = ""
  · simp [url, route, Value.truthy, Value.plain, empty]
  · simp [url, route, Value.truthy, Value.plain, empty, String.append_assoc]

theorem collectionUrl_eq (m : Model) : m.collectionUrl = m.url (.text "") := rfl

theorem url_text_eq_iff (made : make settings (.text name) type = .ok m)
    (made' : make settings (.text name') type' = .ok m') (plain : '/' ∉ name.toList)
    (plain' : '/' ∉ name'.toList) (id id' : String) :
    m.url (.text id) = m'.url (.text id') ↔ name = name' ∧ id = id' := by
  rw [url_text_eq made, url_text_eq made', String.append_left_inj, String.append_left_inj,
    String.append_right_inj]
  constructor
  · exact route_injective plain plain'
  · rintro ⟨rfl, rfl⟩
    rfl

end Model

namespace Call

inductive IsOn (id : Value) : Call → Prop where
  | get : IsOn id (.get id)
  | delete : IsOn id (.delete id)
  | update {document : Value} {fields : Entries} (read : Document.fields document = .ok fields)
      (named : fields.get? identifier = some id) : IsOn id (.update document)

inductive IsOnCollection : Call → Prop where
  | create (document : Value) : IsOnCollection (.create document)
  | getList : IsOnCollection (.getList none)

theorem IsOn.prepare {id : Value} {c : Call} (on : c.IsOn id) (m : Model) :
    ∃ q, c.prepare m = .ok q ∧ q.url = m.url id := by
  cases on with
  | get => exact ⟨_, rfl, rfl⟩
  | delete => exact ⟨_, rfl, rfl⟩
  | @update document fields read named =>
      have created : (Call.create document).prepare m =
          .ok ⟨.post, m.collectionUrl, some (.dict fields)⟩ :=
        prepare_create_eq_ok.mpr ⟨fields, read, rfl⟩
      exact ⟨_, prepare_update_eq_ok.mpr ⟨fields, id, created, named, rfl⟩, rfl⟩

theorem IsOnCollection.url_eq {c : Call} (on : c.IsOnCollection) {m : Model} {q : Request}
    (prepared : c.prepare m = .ok q) : q.url = m.collectionUrl := by
  cases on with
  | create document =>
      obtain ⟨fields, _, rfl⟩ := prepare_create_eq_ok.mp prepared
      rfl
  | getList =>
      rw [Call.prepare, Model.listUrl_none] at prepared
      rw [← Except.ok.inj prepared]

end Call

/-- Calls on documents go to one place just if they are on one document of one model, and to the
place of a collection just if they are on a document without a name in it. -/
theorem document_url_eq_iff {settings : ConnectionSettings} {name name' : String}
    {type type' : Option DocumentType} {m m' : Model}
    (made : Model.make settings (.text name) type = .ok m)
    (made' : Model.make settings (.text name') type' = .ok m') (plain : '/' ∉ name.toList)
    (plain' : '/' ∉ name'.toList) {id id' : String} {c c' : Call} (on : c.IsOn (.text id))
    (on' : c'.IsOn (.text id')) :
    ∃ q q', c.prepare m = .ok q ∧ c'.prepare m' = .ok q' ∧
      (q.url = q'.url ↔ name = name' ∧ id = id') ∧
      ∀ (d : Call) (r : Request), d.IsOnCollection → d.prepare m' = .ok r →
        (q.url = r.url ↔ name = name' ∧ id = "") := by
  obtain ⟨q, prepared, url⟩ := on.prepare m
  obtain ⟨q', prepared', url'⟩ := on'.prepare m'
  refine ⟨q, q', prepared, prepared', ?_, fun d r collection ready => ?_⟩
  · rw [url, url']
    exact Model.url_text_eq_iff made made' plain plain' id id'
  · rw [url, collection.url_eq ready, Model.collectionUrl_eq]
    exact Model.url_text_eq_iff made made' plain plain' id ""

def note : Value := .dict [(.text "title", .text "t"), (.text "ID", .text "7")]

/-- The note is apart from a document of another model, and from the collection of that. -/
theorem acme_document_url_eq_iff :
    '/' ∉ "tasks".toList ∧ '/' ∉ "notes".toList ∧
      Call.IsOn (.text "7/tags") (.delete (.text "7/tags")) ∧
      Call.IsOn (.text "7") (.update note) ∧
      ∃ q q', (Call.delete (.text "7/tags")).prepare (acmeModel "k" "tasks") = .ok q ∧
        (Call.update note).prepare (acmeModel "k" "notes") = .ok q' ∧
        (q.url = q'.url ↔ "tasks" = "notes" ∧ "7/tags" = "7") ∧
        ∀ (d : Call) (r : Request), d.IsOnCollection →
          d.prepare (acmeModel "k" "notes") = .ok r →
          (q.url = r.url ↔ "tasks" = "notes" ∧ "7/tags" = "") := by
  have plain : '/' ∉ "tasks".toList := by decide
  have plain' : '/' ∉ "notes".toList := by decide
  have named : Entries.get? [(.text "title", .text "t"), (.text "ID", .text "7")] Call.identifier =
      some (.text "7") := by
    simp [Entries.get?, Call.identifier, Schema.identifier, Value.same_text]
  have on : Call.IsOn (.text "7") (.update note) := .update rfl named
  exact ⟨plain, plain', .delete, on,
    document_url_eq_iff (make_acmeModel "k" "tasks") (make_acmeModel "k" "notes") plain plain'
      .delete on⟩

/-- To delete the document without a name is a request to the collection. -/
theorem acme_empty_id_names_collection :
    Model.make (acme "k") (.text "tasks") none = .ok (acmeModel "k" "tasks") ∧
      '/' ∉ "tasks".toList ∧ Call.IsOn (.text "") (.delete (.text "")) ∧
      (Call.getList none).IsOnCollection ∧
      (Call.delete (.text "")).prepare (acmeModel "k" "tasks") =
        .ok ⟨.delete, "https://lax.dokuflow.com/acme/tasks?apiKey=k", none⟩ ∧
      (Call.getList none).prepare (acmeModel "k" "tasks") =
        .ok ⟨.get, "https://lax.dokuflow.com/acme/tasks?apiKey=k", none⟩ :=
  ⟨make_acmeModel "k" "tasks", by decide, .delete, .getList, rfl, rfl⟩

end DocSpace
