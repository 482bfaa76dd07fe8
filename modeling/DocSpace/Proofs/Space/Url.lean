import DocSpace.Proofs.Query.Masked
import DocSpace.Proofs.Settings.Connection
import DocSpace.Space.Model

set_option autoImplicit false

namespace DocSpace

open Redaction

namespace Model

theorem make_eq_ok {settings : ConnectionSettings} {id : Value} {type : Option DocumentType}
    {m : Model} : make settings id type = .ok m ↔
      ∃ schema, type.mapM Schema.ofType = .ok schema ∧
        m = ⟨settings.baseUrl ++ "/" ++ settings.spaceName.plain ++ "/" ++ id.plain,
          settings.apiKey, schema⟩ := by
  rw [make, bind_eq_ok]
  exact exists_congr fun schema => and_congr_right fun _ =>
    ⟨fun same => (Except.ok.inj same).symm, fun same => congrArg Except.ok same.symm⟩

def withKey (m : Model) (k : Value) : Model := { m with apiKey := k }

def place (m : Model) (id : Value) : String :=
  m.address ++ if id.truthy then "/" ++ id.plain else ""

theorem toList_url_append (m : Model) (id : Value) (clauses : String) :
    (m.url id ++ clauses).toList =
      (m.place id).toList ++ (keyMark ++ (m.apiKey.plain.toList ++ clauses.toList)) := by
  simp only [url, place, String.toList_append, toList_keyMark, List.append_assoc]

/-- The clauses that a list adds to the URL of its model, once its options are checked. -/
def listClauses (m : Model) (options : Option Query.ListOptions) : Except Failure String := do
  if let (some s, some o) := (m.schema, options) then s.check o.toQueryOptions
  match options with
  | none => return ""
  | some o => Query.queryString o

theorem listClauses_none (m : Model) : m.listClauses none = .ok "" := by
  cases known : m.schema <;> simp only [listClauses, known] <;> rfl

theorem listUrl_none (m : Model) : m.listUrl none = .ok m.collectionUrl := by
  cases known : m.schema <;> simp only [listUrl, known] <;> rfl

theorem listUrl_eq_map (m : Model) (options : Option Query.ListOptions) :
    m.listUrl options = (m.listClauses options).map fun clauses => m.collectionUrl ++ clauses := by
  have unchecked (o : Query.ListOptions) :
      (liftM (Query.queryUrl m.collectionUrl (some o)) : Except Failure String) =
        (liftM (Query.queryString o) : Except Failure String).map (m.collectionUrl ++ ·) := by
    rw [Query.queryUrl]
    cases Query.queryString o <;> rfl
  cases options with
  | none => rw [listUrl_none, listClauses_none, Except.map, String.append_empty]
  | some o =>
      cases known : m.schema with
      | none =>
          simp only [listUrl, listClauses, known]
          exact unchecked o
      | some s =>
          simp only [listUrl, listClauses, known]
          cases s.check o.toQueryOptions with
          | error f => rfl
          | ok _ => exact unchecked o

/-- Clauses start with an ampersand, if there are any. -/
theorem isFresh_listClauses {m : Model} {options : Option Query.ListOptions} {clauses : String}
    (given : m.listClauses options = .ok clauses) : IsFresh clauses.toList := by
  have compiled {o : Query.ListOptions}
      (run : (liftM (Query.queryString o) : Except Failure String) = .ok clauses) :
      IsFresh clauses.toList := by
    rw [lift_eq_ok, Query.queryString_eq] at run
    obtain ⟨ps, _, rfl⟩ := map_eq_ok.mp run
    exact Query.isFresh_parametersText ps
  cases options with
  | none =>
      rw [listClauses_none] at given
      rw [← Except.ok.inj given]
      exact .nil
  | some o =>
      cases known : m.schema with
      | none =>
          simp only [listClauses, known] at given
          exact compiled given
      | some s =>
          simp only [listClauses, known] at given
          obtain ⟨_, _, run⟩ := bind_eq_ok.mp given
          exact compiled run

end Model

def acme (key : String) : ConnectionSettings :=
  ⟨.text "acme", .text key, defaultBaseUrl, .int 10, .text "INFO", .info⟩

def acmeModel (key name : String) : Model :=
  ⟨"https://lax.dokuflow.com/acme/" ++ name, .text key, none⟩

theorem make_acme (key : String) (filled : (Value.text key).truthy = true) :
    ConnectionSettings.make (.text "acme") (.text key) (.text defaultBaseUrl) (.int 10)
      (.text "INFO") = .ok (acme key) :=
  ConnectionSettings.make_eq_ok.mpr
    ⟨by decide, filled, rfl, .info, defaultBaseUrl, rfl, rfl, rfl⟩

theorem make_acmeModel (key name : String) :
    Model.make (acme key) (.text name) none = .ok (acmeModel key name) := rfl

end DocSpace
