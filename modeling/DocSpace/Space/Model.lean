import DocSpace.Query.Clauses
import DocSpace.Schema.Check
import DocSpace.Settings.Connection

set_option autoImplicit false

namespace DocSpace

/-- A model whose document type is known has a schema. -/
structure Model where
  address : String
  apiKey : Value
  schema : Option Schema

namespace Model

open Query

def make (settings : ConnectionSettings) (id : Value) (type : Option DocumentType) :
    Except Fault Model := do
  let schema ← type.mapM Schema.ofType
  return ⟨settings.baseUrl ++ "/" ++ settings.spaceName.plain ++ "/" ++ id.plain,
    settings.apiKey, schema⟩

def url (m : Model) (id : Value) : String :=
  m.address ++ (if id.truthy then "/" ++ id.plain else "") ++ "?apiKey=" ++ m.apiKey.plain

def collectionUrl (m : Model) : String := m.url .null

/-- URL of a list. Options are checked first, if there is a schema. -/
def listUrl (m : Model) (options : Option ListOptions) : Except Failure String := do
  if let (some s, some o) := (m.schema, options) then s.check o.toQueryOptions
  queryUrl m.collectionUrl options

end Model

end DocSpace
