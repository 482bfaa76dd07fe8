import DocSpace.Schema.DocumentType

set_option autoImplicit false

namespace DocSpace

structure Schema where
  name : String
  fields : Named Hint

namespace Schema

def identifier : String := "ID"

def ofType (t : DocumentType) : Except Fault Schema := do
  return ⟨t.own.name, (← t.hints).insertNew identifier (.plain .text)⟩

def contains (s : Schema) (name : String) : Bool := s.fields.contains name

/-- The type of the field that a value names. Only a value that can be a key is looked up. -/
def lookup (s : Schema) (name : Value) : Option Hint := name.asText?.bind s.fields.get?

end Schema

end DocSpace
