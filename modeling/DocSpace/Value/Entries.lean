import DocSpace.Value.Equality

set_option autoImplicit false

namespace DocSpace

abbrev Entries := List (Value × Value)

namespace Entries

def insert : Entries → Value → Value → Entries
  | [], k, v => [(k, v)]
  | (k', v') :: es, k, v => if k'.same k then (k', v) :: es else (k', v') :: insert es k v

def ofList (es : List (Value × Value)) : Entries :=
  es.foldl (fun done e => insert done e.1 e.2) []

def get? (es : Entries) (k : Value) : Option Value := (es.find? fun e => e.1.same k).map (·.2)

def erase (es : Entries) (k : Value) : Entries := es.filter fun e => !e.1.same k

def field (es : Entries) (name : String) : Value := (es.get? (.text name)).getD .null

end Entries

end DocSpace
