import DocSpace.Text.LetterCase

set_option autoImplicit false

namespace DocSpace

inductive Level where
  | debug | info | warning | error | critical
  deriving DecidableEq

namespace Level

def number : Level → Nat
  | debug => 10
  | info => 20
  | warning => 30
  | error => 40
  | critical => 50

def word : Level → String
  | debug => "debug"
  | info => "info"
  | warning => "warning"
  | error => "error"
  | critical => "critical"

def named : List (String × Level) :=
  [("DEBUG", debug), ("INFO", info), ("WARNING", warning), ("WARN", warning), ("ERROR", error),
    ("CRITICAL", critical), ("FATAL", critical)]

/-- Names count in any letter case. -/
def ofName? (name : String) : Option Level := named.lookup (Text.upper name)

end Level

/-- Thresholds by name; letter case counts. -/
def thresholdNames : List (String × Int) :=
  ("NOTSET", 0) :: Level.named.map fun (name, l) => (name, l.number)

end DocSpace
