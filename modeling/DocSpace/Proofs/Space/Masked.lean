import DocSpace.Proofs.Space.Url

set_option autoImplicit false

namespace DocSpace

open Redaction

namespace Model

/-- Settings that differ in the key make models that do. -/
theorem eq_withKey_of_make {spaceName key key' baseUrl timeout logLevel id : Value}
    {settings settings' : ConnectionSettings} {type : Option DocumentType} {m m' : Model}
    (made : ConnectionSettings.make spaceName key baseUrl timeout logLevel = .ok settings)
    (made' : ConnectionSettings.make spaceName key' baseUrl timeout logLevel = .ok settings')
    (client : make settings id type = .ok m) (client' : make settings' id type = .ok m') :
    m.apiKey = key ∧ m' = m.withKey key' := by
  obtain ⟨_, _, _, level, url, _, based, rfl⟩ := ConnectionSettings.make_eq_ok.mp made
  obtain ⟨_, _, _, level', url', _, based', rfl⟩ := ConnectionSettings.make_eq_ok.mp made'
  obtain ⟨schema, typed, rfl⟩ := make_eq_ok.mp client
  obtain ⟨schema', typed', rfl⟩ := make_eq_ok.mp client'
  obtain rfl := Except.ok.inj (based.symm.trans based')
  obtain rfl := Except.ok.inj (typed.symm.trans typed')
  exact ⟨rfl, rfl⟩

/-- Whatever clauses follow, a URL shows of its key what the key exposes. -/
theorem hideKey_append_eq_iff (m : Model) (k id : Value) {clauses : String}
    (fresh : IsFresh clauses.toList) :
    hideKey (m.url id ++ clauses) = hideKey ((m.withKey k).url id ++ clauses) ↔
      exposed m.apiKey.plain = exposed k.plain :=
  hideKey_eq_iff_exposed _ fresh (m.toList_url_append id clauses)
    ((m.withKey k).toList_url_append id clauses)

theorem hideKey_url_eq_iff (m : Model) (k id : Value) :
    hideKey (m.url id) = hideKey ((m.withKey k).url id) ↔
      exposed m.apiKey.plain = exposed k.plain := by
  have fresh : IsFresh "".toList := .nil
  simpa only [String.append_empty] using m.hideKey_append_eq_iff k id fresh

/-- A list that has a URL shows of the key what the key exposes, and any other fails for all
keys. -/
theorem hideKey_listUrl_eq_iff (m : Model) (k : Value) (options : Option Query.ListOptions) :
    (m.listUrl options).map hideKey = ((m.withKey k).listUrl options).map hideKey ↔
      (∃ f, m.listUrl options = .error f) ∨ exposed m.apiKey.plain = exposed k.plain := by
  have same : (m.withKey k).listClauses options = m.listClauses options := rfl
  simp only [listUrl_eq_map, same]
  cases given : m.listClauses options with
  | error f => exact iff_of_true rfl (Or.inl ⟨f, rfl⟩)
  | ok clauses =>
      have shown := m.hideKey_append_eq_iff k .null (isFresh_listClauses given)
      simpa [Except.map, collectionUrl] using shown

end Model

/-- The URLs of two spaces that differ in their key read the same, once keys are hidden, just if
the keys expose the same. -/
theorem masked_eq_iff_exposed_eq {spaceName key key' baseUrl timeout logLevel id : Value}
    {settings settings' : ConnectionSettings} {type : Option DocumentType} {m m' : Model}
    (made : ConnectionSettings.make spaceName key baseUrl timeout logLevel = .ok settings)
    (made' : ConnectionSettings.make spaceName key' baseUrl timeout logLevel = .ok settings')
    (client : Model.make settings id type = .ok m)
    (client' : Model.make settings' id type = .ok m') :
    (∀ document, hideKey (m.url document) = hideKey (m'.url document) ↔
        exposed key.plain = exposed key'.plain) ∧
      ∀ options, (m.listUrl options).map hideKey = (m'.listUrl options).map hideKey ↔
        (∃ f, m.listUrl options = .error f) ∨ exposed key.plain = exposed key'.plain := by
  obtain ⟨rfl, rfl⟩ := Model.eq_withKey_of_make made made' client client'
  exact ⟨m.hideKey_url_eq_iff key', m.hideKey_listUrl_eq_iff key'⟩

/-- Two keys with one end read the same, and keys without ampersands do. -/
theorem acme_masked_eq_iff_exposed_eq :
    ConnectionSettings.make (.text "acme") (.text "a&b") (.text defaultBaseUrl) (.int 10)
        (.text "INFO") = .ok (acme "a&b") ∧
      ConnectionSettings.make (.text "acme") (.text "c&b") (.text defaultBaseUrl) (.int 10)
        (.text "INFO") = .ok (acme "c&b") ∧
      Model.make (acme "a&b") (.text "tasks") none = .ok (acmeModel "a&b" "tasks") ∧
      Model.make (acme "c&b") (.text "tasks") none = .ok (acmeModel "c&b" "tasks") ∧
      hideKey ((acmeModel "a&b" "tasks").url (.text "7")) =
        hideKey ((acmeModel "c&b" "tasks").url (.text "7")) ∧
      (∀ options, ((acmeModel "a&b" "tasks").listUrl options).map hideKey =
        ((acmeModel "c&b" "tasks").listUrl options).map hideKey) := by
  have same : exposed (Value.text "a&b").plain = exposed (Value.text "c&b").plain := rfl
  have made := make_acme "a&b" (by decide)
  have made' := make_acme "c&b" (by decide)
  obtain ⟨documents, lists⟩ :=
    masked_eq_iff_exposed_eq made made' (make_acmeModel "a&b" "tasks")
      (make_acmeModel "c&b" "tasks")
  exact ⟨made, made', make_acmeModel _ _, make_acmeModel _ _, (documents _).mpr same,
    fun options => (lists options).mpr (Or.inr same)⟩

/-- What comes behind the ampersand of a key is not hidden. -/
theorem acme_shows_key :
    ConnectionSettings.make (.text "acme") (.text "a&b") (.text defaultBaseUrl) (.int 10)
        (.text "INFO") = .ok (acme "a&b") ∧
      ConnectionSettings.make (.text "acme") (.text "k") (.text defaultBaseUrl) (.int 10)
        (.text "INFO") = .ok (acme "k") ∧
      Model.make (acme "a&b") (.text "tasks") none = .ok (acmeModel "a&b" "tasks") ∧
      Model.make (acme "k") (.text "tasks") none = .ok (acmeModel "k" "tasks") ∧
      hideKey ((acmeModel "a&b" "tasks").url (.text "7")) =
        "https://lax.dokuflow.com/acme/tasks/7?apiKey=[REDACTED]&b" ∧
      hideKey ((acmeModel "k" "tasks").url (.text "7")) =
        "https://lax.dokuflow.com/acme/tasks/7?apiKey=[REDACTED]" ∧
      hideKey ((acmeModel "a&b" "tasks").url (.text "7")) ≠
        hideKey ((acmeModel "k" "tasks").url (.text "7")) := by
  have first : hideKey ((acmeModel "a&b" "tasks").url (.text "7")) =
      "https://lax.dokuflow.com/acme/tasks/7?apiKey=[REDACTED]&b" := rfl
  have second : hideKey ((acmeModel "k" "tasks").url (.text "7")) =
      "https://lax.dokuflow.com/acme/tasks/7?apiKey=[REDACTED]" := rfl
  refine ⟨make_acme _ (by decide), make_acme _ (by decide), make_acmeModel _ _, make_acmeModel _ _,
    first, second, ?_⟩
  rw [first, second]
  decide

end DocSpace
