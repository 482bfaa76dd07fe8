import DocSpace.Failure
import DocSpace.Value.Equality
import DocSpace.Value.Sequence

set_option autoImplicit false

namespace DocSpace.Query

open Text

def operationNames : List String := ["LIKE", "EQ", "IN"]

def membership : String := "IN"

def itemSeparator : String := "|"

def isOperation (v : Value) : Bool := operationNames.any v.isText

/-- The operation is known, and exactly membership takes a sequence. -/
structure Filter where
  field : Value
  operation : Value
  value : Value
  known : isOperation operation = true
  shaped : value.isSequence = operation.isText membership

namespace Filter

def refusal (message : String) (field : Value) (reason : String) : Report :=
  .validation (.text message)
    (.list [Report.detailOf [("field", field), ("reason", .text reason)]]) .null .null

def make (field operation value : Value) : Except Report Filter :=
  if known : isOperation operation = true then
    if shaped : value.isSequence = operation.isText membership then
      .ok ⟨field, operation, value, known, shaped⟩
    else if operation.isText membership then
      .error (refusal ("IN filter on '" ++ field.plain ++ "' needs a list of values") field
        "IN expects a list of values")
    else
      .error (refusal (operation.plain ++ " filter on '" ++ field.plain ++ "' needs a single value")
        field (operation.plain ++ " expects a single value"))
  else
    .error (refusal ("Unknown filter operation " ++ operation.display) field
      ("operation must be one of " ++ joined ", " operationNames))

def like (field value : Value) : Except Report Filter := make field (.text "LIKE") value

def eq (field value : Value) : Except Report Filter := make field (.text "EQ") value

/-- Membership in the parts of `values`. -/
def isIn (field values : Value) : Except Failure Filter := do
  let vs ← values.items
  (make field (.text membership) (.list vs)).mapError .report

def isMembership (f : Filter) : Bool := f.operation.isText membership

def operands (f : Filter) : List Value := if f.isMembership then f.value.members else [f.value]

end Filter

/-- A value as the service expects it. A member of an enumeration gives its value. -/
def render : Value → String
  | .bool b => if b then "true" else "false"
  | .null => "null"
  | .member _ _ v => v.plain
  | .textMember _ _ s => s
  | .intMember _ _ i => Number.intText i
  | v => v.plain

/-- Absent members of a list leave nothing. -/
def renderItem (v : Value) : String := if v.isNull then "" else render v

namespace Filter

def operand (f : Filter) : String :=
  if f.isMembership then joined itemSeparator (f.operands.map renderItem) else render f.value

def fragment (f : Filter) : String :=
  "$$" ++ f.field.plain ++ "=" ++ f.operation.plain ++ "||" ++ f.operand

def toValue (f : Filter) : Value :=
  .record "Filter" [("field", f.field), ("operation", f.operation), ("value", f.value)]

end Filter

end DocSpace.Query
