import DocSpace.Proofs.Query.Respelled
import DocSpace.Proofs.Schema.Check

set_option autoImplicit false

namespace DocSpace

theorem Value.RespellsEach.items_alike {v w : Value} (respells : v.RespellsEach w) :
    Alike (List.Forall₂ Respells) v.items w.items := by
  rcases respells.eq_or_items? with rfl | ⟨vs, ws, parts, others, each⟩
  · exact alike_of_eq (fun vs => List.forall₂_same.mpr fun u _ => .same u) _
  · rw [items, items, parts, others]
    exact .ok each

namespace Schema

open Query

/-- The same complaint, about a name as it was given each time. -/
inductive SameComplaint : Value → Value → Prop where
  | about (clause reason : String) {v w : Value} (respells : v.Respells w) :
      SameComplaint (complaint clause v reason) (complaint clause w reason)

def SameFinding (x y : Value × Option Hint) : Prop := x.1.Respells y.1 ∧ y.2 = x.2

variable {s : Schema} {o o' : ListOptions}

theorem find?_eq_of_respells {v w : Value} (respells : v.Respells w) : s.find? w = s.find? v := by
  cases respells <;> rfl

theorem unknownFields_alike (clause : String) {vs ws : List Value}
    (each : List.Forall₂ Value.Respells vs ws) :
    Alike (List.Forall₂ SameComplaint) (s.unknownFields clause vs) (s.unknownFields clause ws) := by
  have found : Alike (List.Forall₂ SameFinding) (vs.mapM fun n => do return (n, ← s.find? n))
      (ws.mapM fun n => do return (n, ← s.find? n)) := by
    refine alike_mapM each fun v w respells => ?_
    rw [find?_eq_of_respells respells]
    cases s.find? v with
    | error f => exact .error f
    | ok hint => exact .ok ⟨respells, rfl⟩
  refine found.bind fun xs ys pairs => .ok ?_
  have missing (x y : Value × Option Hint) (same : SameFinding x y) :
      x.2.isNone = true ↔ y.2.isNone = true := by
    rw [same.2]
  have kept := List.rel_filter missing pairs
  rw [List.forall₂_map_left_iff, List.forall₂_map_right_iff]
  exact kept.imp fun x y same => .about clause ("not a field of " ++ s.name) same.1

theorem checkNames_alike (clause : String) {v w : Value} (respells : v.RespellsEach w) :
    Alike (List.Forall₂ SameComplaint) (s.checkNames clause v) (s.checkNames clause w) := by
  rw [checkNames, checkNames, respells.truthy_eq]
  split
  · exact respells.items_alike.bind fun vs ws each => unknownFields_alike clause each
  · exact .ok .nil

theorem checkFilter_alike {f g : Filter} (respells : f.Respells g) :
    Alike (List.Forall₂ SameComplaint) (s.checkFilter f) (s.checkFilter g) := by
  rw [checkFilter, checkFilter, find?_eq_of_respells respells.field, respells.operands_eq]
  refine (alike_of_eq (fun _ => rfl) (s.find? f.field)).bind ?_
  rintro hint _ rfl
  cases hint with
  | none => exact .ok (.cons (.about _ _ respells.field) .nil)
  | some hint =>
      refine (alike_of_eq (fun _ => rfl) (offending? hint f.operands)).bind ?_
      rintro offence _ rfl
      cases offence with
      | none => exact .ok .nil
      | some offence => exact .ok (.cons (.about _ _ respells.field) .nil)

theorem checkSortBy_alike {a b : Option SortBy} (rel : Option.Rel SortBy.Respells a b) :
    Alike (List.Forall₂ SameComplaint) (s.checkSortBy a) (s.checkSortBy b) := by
  cases rel with
  | none => exact .ok .nil
  | some respells => exact unknownFields_alike "sort" (.cons respells.field .nil)

/-- Options are complained about as often and in the same order, whether their names are given as
texts or as members. -/
theorem complaints_alike (s : Schema) (respells : o.Respells o') :
    Alike (List.Forall₂ SameComplaint) (s.complaints o.toQueryOptions)
      (s.complaints o'.toQueryOptions) := by
  refine (alike_mapM respells.filters fun f g => checkFilter_alike).bind fun _ _ filters => ?_
  refine (checkNames_alike "select" respells.selections).bind fun _ _ select => ?_
  refine (checkNames_alike "relations" respells.relations).bind fun _ _ relations => ?_
  refine (checkSortBy_alike respells.sortBy).bind fun _ _ sort => .ok ?_
  exact List.rel_append (List.rel_append (List.rel_append (List.rel_flatten filters) select)
    relations) sort

theorem check_respelled_eq_ok_iff (s : Schema) (respells : o.Respells o') :
    s.check o'.toQueryOptions = .ok () ↔ s.check o.toQueryOptions = .ok () := by
  rw [check_eq_ok, check_eq_ok]
  exact (complaints_alike s respells).eq_ok_nil_iff.symm

end Schema

namespace Query

variable {o o' : ListOptions}

/-- Members change a query string just if their names are shown, as those of fields, operations and
orders are where they differ from the values. Filters can be made with members as well, and a schema
complains about the same names. -/
theorem queryString_respelled_eq_iff (respells : o.Respells o') :
    (queryString o' = queryString o ↔ (∃ f, queryString o = .error f) ∨ o.ShownAs o') ∧
    (∀ s : Schema, (s.check o'.toQueryOptions = .ok () ↔ s.check o.toQueryOptions = .ok ()) ∧
      Alike (List.Forall₂ Schema.SameComplaint) (s.complaints o.toQueryOptions)
        (s.complaints o'.toQueryOptions)) ∧
    ∀ (f : Filter) (field operation : Value), f.field.Respells field →
      f.operation.Respells operation →
        ∃ g : Filter, f.Respells g ∧ g.field = field ∧ g.operation = operation := by
  refine ⟨queryString_eq_iff_shownAs respells, fun s => ?_, fun f field operation named asked => ?_⟩
  · exact ⟨s.check_respelled_eq_ok_iff respells, s.complaints_alike respells⟩
  · exact f.exists_respells named asked

def byStatus (status : Value) : ListOptions where
  selections := .list [status]
  filters := some [⟨status, .text "EQ", .text "open", rfl, rfl⟩]
  relations := .null
  sort := .null
  sortBy := some ⟨status, .bool false⟩
  pagination := none

def statusField : Value := .textMember "Field" "STATUS" "status"

theorem respells_statusField : (Value.text "status").Respells statusField :=
  .member (by decide) "status"

theorem respells_byStatus : (byStatus (.text "status")).Respells (byStatus statusField) where
  filters := .cons ⟨respells_statusField, .same _, rfl⟩ .nil
  selections := .list (.cons respells_statusField .nil)
  relations := .same _
  sortBy := .some ⟨respells_statusField, rfl⟩
  sort := rfl
  pagination := rfl

def taskSchema : Schema := ⟨"Task", [("status", .plain .text), ("ID", .plain .text)]⟩

theorem byStatus_respelled_eq_iff :
    (byStatus (.text "status")).Respells (byStatus statusField) ∧
      (queryString (byStatus statusField) = queryString (byStatus (.text "status")) ↔
        (∃ f, queryString (byStatus (.text "status")) = .error f) ∨
          (byStatus (.text "status")).ShownAs (byStatus statusField)) ∧
      taskSchema.check (byStatus statusField).toQueryOptions = .ok () ∧
      ∃ g : Filter, g.field = statusField ∧ g.operation = .text "EQ" := by
  obtain ⟨shown, checks, made⟩ := queryString_respelled_eq_iff respells_byStatus
  obtain ⟨g, _, named, asked⟩ := made ⟨.text "status", .text "EQ", .text "open", rfl, rfl⟩
    statusField (.text "EQ") respells_statusField (.same _)
  exact ⟨respells_byStatus, shown, (checks taskSchema).1.mpr rfl, g, named, asked⟩

/-- A field that the schema knows by its member is selected by its name, but looked for and ordered
by under another. -/
theorem member_is_no_field :
    (byStatus (.text "status")).Respells (byStatus statusField) ∧
      taskSchema.check (byStatus (.text "status")).toQueryOptions = .ok () ∧
      taskSchema.check (byStatus statusField).toQueryOptions = .ok () ∧
      queryString (byStatus (.text "status")) =
        .ok "&$$status=EQ||open&select=status&sort=status" ∧
      queryString (byStatus statusField) =
        .ok "&$$Field.STATUS=EQ||open&select=status&sort=Field.STATUS" ∧
      queryString (byStatus statusField) ≠ queryString (byStatus (.text "status")) := by
  have named : queryString (byStatus (.text "status")) =
      .ok "&$$status=EQ||open&select=status&sort=status" := rfl
  have member : queryString (byStatus statusField) =
      .ok "&$$Field.STATUS=EQ||open&select=status&sort=Field.STATUS" := rfl
  refine ⟨respells_byStatus, rfl, rfl, named, member, ?_⟩
  rw [named, member]
  intro equal
  exact absurd (Except.ok.inj equal) (by decide)

end Query

end DocSpace
