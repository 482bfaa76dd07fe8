import DocSpace.Redaction.Fields

set_option autoImplicit false

namespace DocSpace

inductive ReportKind where
  | base
  | domain
  | validation (errors : Value)
  | application
  | config
  | missingSetting (name : Value)
  | invalidSetting (name value reason : Value)
  | infrastructure
  | timeout
  | externalService (service statusCode : Value)

namespace ReportKind

def className : ReportKind → String
  | base => "BaseError"
  | domain => "DomainError"
  | validation _ => "ValidationError"
  | application => "ApplicationError"
  | config => "ConfigError"
  | missingSetting _ => "MissingRequiredSettingError"
  | invalidSetting _ _ _ => "InvalidSettingValueError"
  | infrastructure => "InfrastructureError"
  | timeout => "TimeoutError"
  | externalService _ _ => "ExternalServiceError"

def defaultCode : ReportKind → String
  | base => "base_error"
  | domain => "domain_error"
  | validation _ => "validation_error"
  | application => "application_error"
  | config => "config_error"
  | missingSetting _ => "missing_required_setting"
  | invalidSetting _ _ _ => "invalid_setting_value"
  | infrastructure => "infrastructure_error"
  | timeout => "infrastructure_timeout"
  | externalService _ _ => "external_service_error"

/-- One kind of each class, the general before the special. -/
def all : List ReportKind :=
  [base, domain, validation .null, application, config, missingSetting .null,
    invalidSetting .null .null .null, infrastructure, timeout, externalService .null .null]

def ancestors : ReportKind → List ReportKind
  | base => []
  | domain | application | infrastructure => [base]
  | validation _ => [base, domain]
  | config => [base, application]
  | missingSetting _ | invalidSetting _ _ _ => [base, application, config]
  | timeout | externalService _ _ => [base, infrastructure]

def lineage (k : ReportKind) : List String := k.ancestors.map className ++ [k.className]

def isConfig : ReportKind → Bool
  | config | missingSetting _ | invalidSetting _ _ _ => true
  | _ => false

end ReportKind

structure Report where
  kind : ReportKind
  message : Value
  code : Value
  detail : Value

namespace Report

/-- An empty code stands for the kind's own, and empty details for none. -/
def make (kind : ReportKind) (message : Value) (code detail : Value) : Report where
  kind := kind
  message := message
  code := code.orElse (.text kind.defaultCode)
  detail := detail.orElse (.dict [])

def plain (kind : ReportKind) (message : String) : Report := make kind (.text message) .null .null

def validation (message errors code detail : Value) : Report :=
  make (.validation (errors.orElse (.list []))) message code detail

def detailOf (fields : List (String × Value)) : Value :=
  .dict (fields.map fun (name, v) => (.text name, v))

def missingSetting (name : Value) : Report :=
  make (.missingSetting name) (.text ("Required setting '" ++ name.plain ++ "' is missing")) .null
    (detailOf [("setting", name)])

/-- The value of a sensitive setting is hidden. -/
def invalidSetting (name value reason : Value) : Except Fault Report := do
  let shown :=
    if ← Redaction.Policy.standard.coversKey name then Redaction.hiddenValue else value
  return make (.invalidSetting name shown reason)
    (.text ("Setting '" ++ name.plain ++ "' has invalid value " ++ shown.display ++ ": " ++
      reason.plain))
    .null (detailOf [("setting", name), ("reason", reason)])

/-- An empty message is made from the service. -/
def serviceMessage (service message : Value) : Value :=
  message.orElse (.text ("External service '" ++ service.plain ++ "' error"))

def externalService (service message statusCode code detail : Value) : Report :=
  make (.externalService service statusCode) (serviceMessage service message) code detail

def entries (r : Report) (cause : Option String) : List (Value × Value) :=
  [(.text "code", r.code), (.text "message", r.message), (.text "detail", r.detail)]
    ++ (cause.map fun c => (Value.text "cause", Value.text c)).toList
    ++ match r.kind with
      | .validation errors => [(.text "errors", errors)]
      | _ => []

def display (r : Report) : String :=
  Value.call r.kind.className ["code=" ++ r.code.display, "message=" ++ r.message.display]

end Report

end DocSpace
