import DocSpace.Query.Options

set_option autoImplicit false

namespace DocSpace.Query

open Text

def clause (name value : String) : String := "&" ++ name ++ "=" ++ value

def filterClause : Option (List Filter) → String
  | none | some [] => ""
  | some fs => "&" ++ joined "&" (fs.map Filter.fragment)

def selectClause (selections : Value) : Except Fault String :=
  if selections.truthy then do return clause "select" (← selections.join ",") else .ok ""

def pageClause (name : String) (v : Value) : String :=
  if v.isNull then "" else clause name v.plain

def paginationClause : Option Pagination → String
  | none => ""
  | some p => pageClause "skip" p.skip ++ pageClause "take" p.take

/-- Present also when the list is empty. -/
def relationsClause (relations : Value) : Except Fault String :=
  if relations.isNull then .ok "" else do return clause "relations" (← relations.join ",")

def presetClause (sort : Value) : Except Fault String :=
  if sort.isNull then .ok "" else
    match Preset.ofValue? sort with
    | some p => .ok (clause "sort" p.wireName)
    | none => .error (.notASort sort)

def sortByClause : Option SortBy → String
  | none => ""
  | some s => clause "sort" (s.field.plain ++ if s.desc.truthy then "||desc" else "")

def queryString (o : ListOptions) : Except Fault String := do
  let select ← selectClause o.selections
  let relations ← relationsClause o.relations
  let preset ← presetClause o.sort
  return filterClause o.filters ++ select ++ paginationClause o.pagination ++ relations ++ preset
    ++ sortByClause o.sortBy

def queryUrl (base : String) : Option ListOptions → Except Fault String
  | none => .ok base
  | some o => do return base ++ (← queryString o)

end DocSpace.Query
