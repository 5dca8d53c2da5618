import Countersign.Feed.Settings
import Countersign.Json.Writer
import Countersign.Url.Basic

/-!
The frames of a subscription over a socket. Text frames that carry a transaction become batches; the
first frame that ends the stream becomes its last item, and no frame after it is looked at. Each ping
is answered.
-/

namespace Countersign.Feed

inductive Frame where
  | text (content : String)
  | binary (bytes : List UInt8)
  | ping (payload : List UInt8)
  | pong (payload : List UInt8)
  | close
  | cut
  deriving DecidableEq, Repr

def Settings.request (s : Settings) : Json :=
  .ofEntries [
    ("jsonrpc", .text "2.0"),
    ("id", .ofNat 1),
    ("method", .text "subscribe"),
    ("params", .ofEntries [("query", .text s.query)])]

/-- The text of an error that a node answers: its data, its message, or all of it. -/
def rejection (e : Json) : String :=
  match (e.get? "data").or (e.get? "message") with
  | some (.text reason) => reason
  | some reason => reason.write
  | none => e.write

def resultsOfText? (log : String) : Option (List TxResult) :=
  (Document.parse? log).bind (Record.list? TxResult.read?)

/-- The batch of a transaction: its log or, where that is empty, its events as a single result. A log
that cannot be read gives no batch. -/
def batchOf? (result : Json) : Option (List TxResult) :=
  match ((result.get? "log").bind Json.text?).getD "" with
  | "" => do
    let events ← (result.get? "events").bind (Record.list? Event.read?)
    if events.isEmpty then none else some [{ events }]
  | log => resultsOfText? log

def itemOf? (query content : String) : Option Item := do
  let v ← Json.parse? content
  match v.get? "error" with
  | some e => return .error (.subscriptionRejected query (rejection e))
  | none =>
    let result ← ["result", "data", "value", "TxResult", "result"].foldlM (fun v key => v.get? key) v
    return .ok (← batchOf? result)

def preview (content : String) : String :=
  String.ofList (content.toList.take 120)

/-- A connection while its frames are read: the items found, the payloads sent back, and how each text
frame begins. -/
structure Link where
  items : List Item := []
  pongs : List (List UInt8) := []
  previews : List String := []
  connected : Bool := true
  reading : Bool := true

namespace Link

def text (query content : String) (l : Link) : Link :=
  let seen := { l with previews := l.previews ++ [preview content] }
  match itemOf? query content with
  | none => seen
  | some (.ok batch) => { seen with items := l.items ++ [.ok batch] }
  | some (.error e) => { seen with items := l.items ++ [.error e], reading := false }

def lose (l : Link) : Link :=
  { l with items := l.items ++ [.error .closed], connected := false, reading := false }

def take (query : String) (l : Link) (f : Frame) : Link :=
  if l.reading then
    match f with
    | .text content => l.text query content
    | .binary _ | .pong _ => l
    | .ping payload => { l with pongs := l.pongs ++ [payload] }
    | .close | .cut => l.lose
  else l

def hangUp (l : Link) : Link :=
  { l with connected := false, reading := false }

end Link

def readFrames (query : String) (frames : List Frame) : Link :=
  (frames.foldl (Link.take query) {}).hangUp

/-! ### Endpoints -/

def Settings.address (s : Settings) : Except FeedError Url.Address :=
  match Url.parse s.url with
  | .ok a => if a.scheme = "ws" ∨ a.scheme = "wss" then .ok a else .error (.invalidUrl s.url)
  | .error _ => .error (.invalidUrl s.url)

inductive Endpoint where
  | unreachable (reason : String)
  | sending (frames : List Frame)

def Settings.subscribe (s : Settings) : Endpoint → Except FeedError Link
  | .unreachable reason => .error (.connectionFailed s.url reason)
  | .sending frames => .ok (readFrames s.query frames)

end Countersign.Feed
