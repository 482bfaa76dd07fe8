import DocSpace.Query.Filter

set_option autoImplicit false

namespace DocSpace.Query

inductive Preset where
  | earliestFirst
  | latestFirst
  deriving DecidableEq

namespace Preset

def all : List Preset := [earliestFirst, latestFirst]

def memberName : Preset → String
  | earliestFirst => "EARLIEST_FIRST"
  | latestFirst => "LATEST_FIRST"

def wireName : Preset → String
  | earliestFirst => "earliest_first"
  | latestFirst => "latest_first"

def toValue (p : Preset) : Value := .textMember "Sort" p.memberName p.wireName

def ofValue? (v : Value) : Option Preset := all.find? fun p => v.isText p.wireName

end Preset

/-- Order by one field, the other way round when `desc` holds. -/
structure SortBy where
  field : Value
  desc : Value

structure Pagination where
  skip : Value
  take : Value

structure QueryOptions where
  selections : Value
  filters : Option (List Filter)
  relations : Value
  sort : Value
  sortBy : Option SortBy

/-- Options of a list of documents, which may be one page of it. -/
structure ListOptions extends QueryOptions where
  pagination : Option Pagination

/-- Options that an operation reads, and so has to be given; `first` is what it reads first. -/
def QueryOptions.required (first : String) : Option QueryOptions → Except Fault QueryOptions
  | some o => .ok o
  | none => .error (.noAttribute Value.null.typeName first)

def QueryOptions.empty : QueryOptions := ⟨.null, none, .null, .null, none⟩

def QueryOptions.withPagination (o : QueryOptions) (p : Option Pagination) : ListOptions := ⟨o, p⟩

def ListOptions.ofQuery (o : Option QueryOptions) (p : Option Pagination) :
    Except Fault ListOptions := do
  return (← QueryOptions.required "selections" o).withPagination p

def SortBy.toValue (s : SortBy) : Value := .record "SortBy" [("field", s.field), ("desc", s.desc)]

def Pagination.toValue (p : Pagination) : Value :=
  .record "Pagination" [("skip", p.skip), ("take", p.take)]

def ListOptions.fields (o : ListOptions) : List (String × Value) :=
  [("selections", o.selections),
    ("filters", (o.filters.map fun fs => Value.list (fs.map Filter.toValue)).getD .null),
    ("relations", o.relations),
    ("sort", o.sort),
    ("sort_by", (o.sortBy.map SortBy.toValue).getD .null),
    ("pagination", (o.pagination.map Pagination.toValue).getD .null)]

end DocSpace.Query
