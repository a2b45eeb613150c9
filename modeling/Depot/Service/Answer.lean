import Depot.Download.Head
import Depot.Feed.Delivery
import Depot.Reply
import Depot.Service.Basic
import Depot.Store.Lookup

/-!
# Answers

`Service.answer` meets a request from a store. Most bodies are complete at once; that of a download is a
delivery that the connection takes from a frame queue. A request has no answer only if the last change of
its artifact has no HTTP date, or if the frame queue for its body is too large to be made.
-/

namespace Depot

/-- The body of an answer. -/
inductive Content
  /-- All bytes are known. -/
  | fixed (bytes : Bytes)
  /-- The bytes are put into a frame queue. -/
  | streamed (delivery : Delivery)

namespace Content

/-- The bytes that the connection gets, and the error that cuts them off, if there is one. -/
def received : Content → Bytes × Option IoError
  | fixed bytes => (bytes, none)
  | streamed delivery => delivery.received

/-- The number of bytes that is recorded for the body. -/
def recordedBytes : Content → Nat
  | fixed bytes => bytes.length
  | streamed delivery => delivery.shipment.shipped

end Content

/-- What a request is answered with. -/
structure Answer where
  head : Head
  content : Content

namespace Answer

/-- The answer that a reply of fixed content makes. -/
def ofReply (r : Reply) : Answer :=
  ⟨r.head, .fixed r.body⟩

/-- The answer to a failed lookup. -/
def ofStoreError (e : StoreError) : Answer :=
  ofReply (if e.isNotFound then .notFound else .serverError)

/-- The answer that a download makes, without a body if there is none or only the head was asked for. -/
def ofDownload (method : Method) (source : Source) (d : Download) : Answer :=
  if method = .head ∨ d.shape = .unsatisfiable then ⟨d.head, .fixed []⟩
  else ⟨d.head, .streamed (.of d.shape source)⟩

end Answer

/-- The line of a checksum file. -/
def checksumLine (hash artifact : String) : String :=
  hash ++ "  " ++ artifact

namespace Service

section

variable {σ : Type} [Store σ]

/-- Sends an answer off; a body that is streamed needs a frame queue. -/
def send? (s : Service) (a : Answer) : Option Answer :=
  match a.content with
  | .fixed _ => some a
  | .streamed _ => (FrameQueue.create? s.capacity).map fun _ => a

theorem eq_of_send? {s : Service} {a sent : Answer} (sends : s.send? a = some sent) : sent = a := by
  unfold send? at sends
  split at sends
  · exact (Option.some.inj sends).symm
  · obtain ⟨queue, -, rfl⟩ := Option.map_eq_some_iff.1 sends
    rfl

/-- Answers a request for an artifact. -/
def answerArtifact (s : Service) (request : Request) (name : String) (store : σ) : Option Answer × σ :=
  match Store.fetch name store with
  | (.refused e, store) => (some (.ofStoreError e), store)
  | (.crashed, store) => (some (.ofReply .serverError), store)
  | (.found (artifact, source), store) =>
    ((Download.frame? name artifact (Ask.ofFields request.method request.fields)).bind fun download =>
      s.send? (Answer.ofDownload request.method source download), store)

/-- Answers a request for the checksum file of an artifact. -/
def answerChecksum (request : Request) (artifact file : String) (store : σ) : Answer × σ :=
  match Store.describe artifact store with
  | (.refused e, store) => (.ofStoreError e, store)
  | (.crashed, store) => (.ofReply .serverError, store)
  | (.found found, store) =>
    (.ofReply (.checksum (checksumLine found.hash artifact) (Attachment.disposition file)
      (request.method = .head)), store)

/-- Answers a request by what it is about. -/
def answerRoute (s : Service) (request : Request) (store : σ) : Route → Option Answer × σ
  | .options => (some (.ofReply .options), store)
  | .refused => (some (.ofReply .methodNotAllowed), store)
  | .health => (some (.ofReply (.health "ok")), store)
  | .nowhere | .unreadable _ _ => (some (.ofReply .notFound), store)
  | .checksum artifact file =>
    let (answer, store) := answerChecksum request artifact file store
    (some answer, store)
  | .artifact name => s.answerArtifact request name store

/-- Answers a request. -/
def answer (s : Service) (request : Request) (store : σ) : Option Answer × σ :=
  s.answerRoute request store (s.route request)

/-! ## Diagnostics -/

/-- What is noted about a failed lookup. -/
def refusalNotes (name : String) (e : StoreError) : List Diagnostic :=
  if e.isNotFound then [⟨.debug, "Artifact '" ++ name ++ "' not served: " ++ e.message⟩]
  else [⟨.error, "Artifact '" ++ name ++ "' could not be opened: " ++ e.message⟩]

/-- What is noted when a store breaks down. -/
def crashNotes (task name : String) : List Diagnostic :=
  [⟨.error, task ++ " task for artifact '" ++ name ++ "' failed: task panicked"⟩]

/-- What is noted about the body of a download. -/
def deliveryNotes (name : String) (a : Option Answer) : List Diagnostic :=
  match a with
  | some ⟨_, .streamed delivery⟩ => delivery.notes name
  | _ => []

/-- What is noted while a request for an artifact is answered, in order. -/
def artifactNotes (s : Service) (request : Request) (name : String) (store : σ) : List Diagnostic :=
  Store.notes name store ++ match (Store.fetch name store).1 with
    | .refused e => refusalNotes name e
    | .crashed => crashNotes "Open" name
    | .found (artifact, _) =>
      Download.frameNotes name artifact (Ask.ofFields request.method request.fields)
        ++ deliveryNotes name (s.answerArtifact request name store).1

/-- What is noted while a request for a checksum file is answered, in order. -/
def checksumNotes (artifact file : String) (store : σ) : List Diagnostic :=
  Store.notes artifact store ++ match (Store.describe artifact store).1 with
    | .refused e => refusalNotes artifact e
    | .crashed => crashNotes "Checksum" artifact
    | .found _ => Reply.checksumNotes (Attachment.disposition file)

/-- What is noted while a request is answered, in order. -/
def notes (s : Service) (request : Request) (store : σ) : List Diagnostic :=
  match s.route request with
  | .options | .health => []
  | .refused => [⟨.warn, "Method not allowed: " ++ request.method.name⟩]
  | .nowhere => [⟨.debug, "No route for path: " ++ request.path⟩]
  | .unreadable encoded fault =>
    [⟨.debug, "Artifact name '" ++ encoded ++ "' is not valid UTF-8: " ++ fault.message⟩]
  | .checksum artifact file => checksumNotes artifact file store
  | .artifact name => s.artifactNotes request name store

end

end Service

end Depot
