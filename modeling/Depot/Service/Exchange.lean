import Depot.Feed.Traffic
import Depot.Service.Access

/-!
# Exchanges

An exchange is the answer to a request together with the access lines that it leaves. A line is drafted when
the request comes in, with what is known of it then. The draft goes along every way to an answer, and whoever
sends the answer off finishes it: at once and with the size of the body if that is complete, otherwise in a
step of the task that streams the body and with the sum of its progress reports.
-/

namespace Depot

/-- An access line that lacks the outcome of its request. -/
structure AccessDraft where
  /-- The entry as far as the request alone decides it. -/
  entry : AccessEntry
  format : String
deriving DecidableEq, Repr

/-- The text that a draft adds to the access lines once the outcome is known. -/
def AccessDraft.finish (status bodyBytes micros : Nat) (draft : AccessDraft) : String :=
  { draft.entry with status := status, bodyBytes := bodyBytes, micros := micros }.line draft.format ++ "\n"

/-- An answer and the access lines that it leaves. -/
structure Exchange where
  answer : Answer
  /-- The lines written before the answer is sent off. -/
  early : List String := []
  /-- The lines that the task writes when it records the answer. -/
  late : List String := []

namespace Exchange

/-- Sends off an answer whose body is complete. -/
def respond (draft : Option AccessDraft) (micros : Nat) (head : Head) (body : Bytes) : Exchange :=
  { answer := ⟨head, .fixed body⟩
    early := (draft.map (·.finish head.status body.length micros)).toList }

/-- Sends off a reply. -/
def reply (draft : Option AccessDraft) (micros : Nat) (r : Reply) : Exchange :=
  respond draft micros r.head r.body

/-- Reports a failed lookup. -/
def refuse (draft : Option AccessDraft) (micros : Nat) (e : StoreError) : Exchange :=
  reply draft micros (if e.isNotFound then .notFound else .serverError)

/-- Sends off the head of an answer whose body a task streams. -/
def stream (draft : Option AccessDraft) (micros : Nat) (head : Head) (delivery : Delivery) : Exchange :=
  { answer := ⟨head, .streamed delivery⟩
    late := (draft.map (·.finish head.status delivery.shipment.shipped micros)).toList }

end Exchange

namespace Service

/-- Begins the access line of a request, if access lines are on. -/
def draft? (s : Service) (request : Request) (stamp : Stamp) : Option AccessDraft :=
  s.accessFormat.map fun format =>
    { entry :=
        { remote := request.peer.ip.text
          stamp := stamp
          method := request.method.name
          path := request.path
          version := request.version.text
          status := 200
          bodyBytes := 0
          range := request.fields.firstReadable? "range"
          userAgent := request.fields.firstReadable? "user-agent"
          micros := 0 }
      format := format }

section

variable {σ : Type} [Store σ]

/-- Answers a request for an artifact. -/
def exchangeArtifact (s : Service) (request : Request) (name : String) (draft : Option AccessDraft) (micros : Nat)
    (store : σ) : Option Exchange × σ :=
  match Store.fetch name store with
  | (.refused e, store) => (some (.refuse draft micros e), store)
  | (.crashed, store) => (some (.reply draft micros .serverError), store)
  | (.found (artifact, source), store) =>
    ((Download.frame? name artifact (Ask.ofFields request.method request.fields)).bind fun download =>
      if request.method = .head ∨ download.shape = .unsatisfiable then
        some (.respond draft micros download.head [])
      else (FrameQueue.create? s.capacity).map fun _ =>
        .stream draft micros download.head (.of download.shape source), store)

/-- Answers a request for the checksum file of an artifact. -/
def exchangeChecksum (request : Request) (artifact file : String) (draft : Option AccessDraft) (micros : Nat)
    (store : σ) : Exchange × σ :=
  match Store.describe artifact store with
  | (.refused e, store) => (.refuse draft micros e, store)
  | (.crashed, store) => (.reply draft micros .serverError, store)
  | (.found found, store) =>
    (.reply draft micros (.checksum (checksumLine found.hash artifact) (Attachment.disposition file)
      (request.method = .head)), store)

/-- Answers a request by what it is about. -/
def exchangeRoute (s : Service) (request : Request) (draft : Option AccessDraft) (micros : Nat) (store : σ) :
    Route → Option Exchange × σ
  | .options => (some (.reply draft micros .options), store)
  | .refused => (some (.reply draft micros .methodNotAllowed), store)
  | .health => (some (.reply draft micros (.health "ok")), store)
  | .nowhere | .unreadable _ _ => (some (.reply draft micros .notFound), store)
  | .checksum artifact file =>
    let (exchange, store) := exchangeChecksum request artifact file draft micros store
    (some exchange, store)
  | .artifact name => s.exchangeArtifact request name draft micros store

/-- Answers a request and keeps its access line. -/
def exchange (s : Service) (request : Request) (timing : Timing) (store : σ) : Option Exchange × σ :=
  s.exchangeRoute request (s.draft? request timing.stamp) timing.micros store (s.route request)

end

end Service

end Depot
