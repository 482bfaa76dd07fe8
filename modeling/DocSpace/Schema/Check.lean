import DocSpace.Query.Options
import DocSpace.Schema.Basic

set_option autoImplicit false

namespace DocSpace.Schema

open Query

def complaint (clause : String) (field : Value) (reason : String) : Value :=
  Report.detailOf [("clause", .text clause), ("field", field), ("reason", .text reason)]

/-- The field under a name; a value that cannot be a key cannot be looked up. -/
def find? (s : Schema) (name : Value) : Except Fault (Option Hint) :=
  match name.unhashable? with
  | some type => .error (.unhashable type)
  | none => .ok (s.lookup name)

def unknownField (s : Schema) (clause : String) (name : Value) : Value :=
  complaint clause name ("not a field of " ++ s.name)

def unknownFields (s : Schema) (clause : String) (names : List Value) :
    Except Fault (List Value) := do
  let found ← names.mapM fun n => do return (n, ← s.find? n)
  return (found.filter fun f => f.2.isNone).map fun f => s.unknownField clause f.1

/-- The first value that is not of the class. -/
def firstOffending? (c : ClassType) (vs : List Value) : Option Value :=
  vs.find? fun v => !c.accepts v

/-- Two kinds of hints cannot be compared with any value but `null`. -/
def offending? (hint : Hint) (vs : List Value) : Except Fault (Option (String × Value)) :=
  match hint with
  | .plain c => .ok ((firstOffending? c vs).map fun v => (c.name, v))
  | .any => if vs.all Value.isNull then .ok none else .error .anyUnchecked
  | .mapping _ => if vs.all Value.isNull then .ok none else .error .mappingUnchecked
  | .remarked _ | .items _ | .classVariable _ | .unchecked _ => .ok none

def checkFilter (s : Schema) (f : Filter) : Except Fault (List Value) := do
  match ← s.find? f.field with
  | none => return [s.unknownField "filters" f.field]
  | some hint =>
    match ← offending? hint f.operands with
    | none => return []
    | some (expected, v) =>
      return [complaint "filters" f.field ("expected " ++ expected ++ ", got " ++ v.typeName)]

def checkNames (s : Schema) (clause : String) (names : Value) : Except Fault (List Value) := do
  if names.truthy then s.unknownFields clause (← names.items) else return []

def checkSortBy (s : Schema) : Option SortBy → Except Fault (List Value)
  | none => .ok []
  | some order => s.unknownFields "sort" [order.field]

def complaints (s : Schema) (o : QueryOptions) : Except Fault (List Value) := do
  let filters ← (o.filters.getD []).mapM s.checkFilter
  let select ← s.checkNames "select" o.selections
  let relations ← s.checkNames "relations" o.relations
  let sort ← s.checkSortBy o.sortBy
  return filters.flatten ++ select ++ relations ++ sort

def check (s : Schema) (o : QueryOptions) : Except Failure Unit := do
  match ← s.complaints o with
  | [] => return ()
  | found =>
    throw (.report (.validation (.text ("Invalid query options for " ++ s.name)) (.list found)
      .null .null))

def checkGiven (s : Schema) (o : Option QueryOptions) : Except Failure Unit := do
  s.check (← QueryOptions.required "filters" o)

end DocSpace.Schema
