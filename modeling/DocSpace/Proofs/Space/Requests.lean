import DocSpace.Proofs.Http.Session
import DocSpace.Proofs.Space.Prepare
import DocSpace.Proofs.Space.Run

set_option autoImplicit false

namespace DocSpace

open Http

namespace Call

section Sending

variable {settings : ConnectionSettings} {id : Value} {type : Option DocumentType} {c : Call}

end Sending

end Call

namespace Space

/-- The requests of a run that get through to the transport. -/
def sent : Space → List Step → List Request
  | _, [] => []
  | s, t :: ts => (s.step t).2.requests.filter (·.reaches s.session) ++ sent (s.step t).1 ts

end Space

end DocSpace
