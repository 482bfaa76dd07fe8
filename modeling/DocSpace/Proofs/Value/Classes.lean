import DocSpace.Hint

set_option autoImplicit false

namespace DocSpace.Value

def classes : Value → List ClassType
  | null => [.null, .object]
  | bool _ => [.bool, .int, .object]
  | int _ => [.int, .object]
  | double _ => [.double, .object]
  | text _ => [.text, .object]
  | bytes _ => [.bytes, .object]
  | day _ => [.day, .object]
  | moment _ => [.moment, .day, .object]
  | list _ => [.list, .object]
  | tuple _ => [.tuple, .object]
  | dict _ => [.dict, .object]
  | member enum _ _ => [.enum enum, .object]
  | textMember enum _ _ => [.enum enum, .text, .object]
  | intMember enum _ _ => [.enum enum, .int, .object]
  | record name _ => [.record name, .object]
  | type _ => [.type, .object]

def isInstance (v : Value) : ClassType → Bool
  | .abstract _ classes => classes.contains v.typeName
  | c => v.classes.contains c

/-- Whether a field of the class refuses the value; `null` is a value of every field. -/
def offends (v : Value) (c : ClassType) : Bool :=
  !v.isNull &&
    match c with
    | .int => v.isInstance .bool || !v.isInstance .int
    | .double => v.isInstance .bool || !(v.isInstance .double || v.isInstance .int)
    | c => !v.isInstance c

theorem accepts_eq (c : ClassType) (v : Value) : c.accepts v = !v.offends c := by
  cases c <;> cases v <;>
    simp [ClassType.accepts, offends, isInstance, classes, isNull] <;> rfl

end DocSpace.Value
