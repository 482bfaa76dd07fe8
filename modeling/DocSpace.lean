import DocSpace.Log.Call
import DocSpace.Proofs.EnvFile.Assign
import DocSpace.Proofs.Failure.Chain
import DocSpace.Proofs.Failure.Clash
import DocSpace.Proofs.Failure.Readable
import DocSpace.Proofs.Http.Ending
import DocSpace.Proofs.Json.Decode
import DocSpace.Proofs.Json.Double
import DocSpace.Proofs.Json.Numeral
import DocSpace.Proofs.Json.Text
import DocSpace.Proofs.Log.Blocked
import DocSpace.Proofs.Log.Policies
import DocSpace.Proofs.Log.Readable
import DocSpace.Proofs.Log.Run
import DocSpace.Proofs.Log.Secrets
import DocSpace.Proofs.Number.Rounding
import DocSpace.Proofs.Number.Shortest
import DocSpace.Proofs.Query.Alone
import DocSpace.Proofs.Query.Masked
import DocSpace.Proofs.Query.Member
import DocSpace.Proofs.Query.Reading
import DocSpace.Proofs.Redaction.Caseless
import DocSpace.Proofs.Redaction.Nested
import DocSpace.Proofs.Redaction.Repeated
import DocSpace.Proofs.Redaction.Segments
import DocSpace.Proofs.Schema.Extended
import DocSpace.Proofs.Schema.Respelled
import DocSpace.Proofs.Schema.Settled
import DocSpace.Proofs.Settings.Blame
import DocSpace.Proofs.Settings.Disclosure
import DocSpace.Proofs.Settings.Load
import DocSpace.Proofs.Settings.Postponed
import DocSpace.Proofs.Settings.Source
import DocSpace.Proofs.Settings.Texts
import DocSpace.Proofs.Settings.Usable
import DocSpace.Proofs.Signature
import DocSpace.Proofs.Space.First
import DocSpace.Proofs.Space.ListUrl
import DocSpace.Proofs.Space.Masked
import DocSpace.Proofs.Space.Place
import DocSpace.Proofs.Space.Requests
import DocSpace.Proofs.Text.Quoted
import DocSpace.Settings.Declaration
import DocSpace.Space.Basic
import DocSpace.Version
