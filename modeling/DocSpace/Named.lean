set_option autoImplicit false

namespace DocSpace

abbrev Named (α : Type) := List (String × α)

namespace Named

variable {α : Type}

/-- A name that is there already keeps its place and takes the new value. -/
def insert : Named α → String → α → Named α
  | [], k, v => [(k, v)]
  | (k', v') :: es, k, v => if k' = k then (k, v) :: es else (k', v') :: insert es k v

def insertAll (es more : Named α) : Named α := more.foldl (fun es e => es.insert e.1 e.2) es

def get? (es : Named α) (k : String) : Option α := (es.find? fun e => e.1 = k).map (·.2)

def contains (es : Named α) (k : String) : Bool := es.any fun e => e.1 = k

def erase (es : Named α) (k : String) : Named α := es.filter fun e => e.1 ≠ k

/-- A name that is missing comes last. -/
def insertNew (es : Named α) (k : String) (v : α) : Named α :=
  if es.contains k then es else es ++ [(k, v)]

end Named

end DocSpace
