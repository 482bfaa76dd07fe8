import DocSpace.Failure
import DocSpace.Signature

set_option autoImplicit false

namespace DocSpace

/-- The object that is made counts as the first argument. -/
def receiver : String := "self"

def Signature.construct (s : Signature) (className : String) (arguments : List Value)
    (named : Named Value) : Except Fault (Matched Value) :=
  ({ s with required := receiver :: s.required }.assign (Value.null :: arguments) named).mapError
    (.call (className ++ ".__init__"))

def Matched.valueD (m : Matched Value) (name : String) : Value := (m.values.get? name).getD .null

namespace Report

def baseSignature : Signature := ⟨["message"], [], ["code", "detail"], false⟩

def ofBaseCall (kind : ReportKind) (arguments : List Value) (named : Named Value) :
    Except Fault Report := do
  let m ← baseSignature.construct ReportKind.base.className arguments named
  return make kind (m.valueD "message") (m.valueD "code") (m.valueD "detail")

def validationSignature : Signature := ⟨["message"], [], ["errors"], true⟩

def serviceSignature : Signature := ⟨["service"], ["message"], ["status_code"], true⟩

/-- A report of the class of `kind`, whose own values do not count. -/
def ofCall (kind : ReportKind) (arguments : List Value) (named : Named Value) :
    Except Fault Report := do
  match kind with
  | .validation _ =>
    let m ← validationSignature.construct kind.className arguments named
    ofBaseCall (.validation ((m.valueD "errors").orElse (.list []))) [m.valueD "message"] m.more
  | .externalService _ _ =>
    let m ← serviceSignature.construct kind.className arguments named
    let service := m.valueD "service"
    ofBaseCall (.externalService service (m.valueD "status_code"))
      [serviceMessage service (m.valueD "message")] m.more
  | .missingSetting _ =>
    let m ← Signature.construct ⟨["setting_name"], [], [], false⟩ kind.className arguments named
    return missingSetting (m.valueD "setting_name")
  | .invalidSetting _ _ _ =>
    let m ← Signature.construct ⟨["setting_name", "value", "reason"], [], [], false⟩ kind.className
      arguments named
    invalidSetting (m.valueD "setting_name") (m.valueD "value") (m.valueD "reason")
  | kind => ofBaseCall kind arguments named

end Report

/-- An amount is a whole number that can be held. -/
def SystemFault.checkAmount (arguments : List Value) : Except Fault Unit :=
  match amount? arguments with
  | none => .ok ()
  | some v =>
    match whole? v with
    | none => .error (.notAnInteger v.typeName)
    | some i => if fits i then .ok () else .error (.integerTooLarge v.typeName)

namespace Failure

/-- A failure of a class by its name; classes that are not the library's take no names. -/
def ofCall (className : String) (arguments : List Value) (named : Named Value) :
    Except Fault Failure :=
  match ReportKind.all.find? fun k => k.className == className with
  | some kind => (Report.ofCall kind arguments named).map .report
  | none => do
    if !named.isEmpty then throw (.call className .noNames)
    if className = SystemFault.commonClass then SystemFault.checkAmount arguments
    return .fault (.raised className arguments)

end Failure

end DocSpace
