import DocSpace.Value.Entries
import DocSpace.Value.Method

set_option autoImplicit false

namespace DocSpace

structure MutationResponse where
  isSuccess : Bool
  message : Value
  result : Value
  validationResult : Value

/-- Fields that are missing are `null`; an empty message is the empty text. -/
def MutationResponse.ofPayload (payload : Value) : Except Fault MutationResponse :=
  match payload with
  | .dict es =>
    .ok {
      isSuccess := (Entries.field es "isSuccess").truthy
      message := (Entries.field es "message").orElse (.text "")
      result := Entries.field es "result"
      validationResult := Entries.field es "validationResult" }
  | v => .error (v.lacking "get" Value.textType)

end DocSpace
