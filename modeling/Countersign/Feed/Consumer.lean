import Countersign.Feed.Hub
import Countersign.Feed.Settings

/-!
The consumer of a feed. It takes items up to the first error, hands every batch to its hub, and when
the stream is lost waits and connects again; the wait grows until a connection gives a batch. Once a
callback has closed the hub, it takes what is there already and stops before it would wait. Time is a
number of milliseconds, and moves only when it is told to.
-/

namespace Countersign.Feed

attribute [local instance (high)] instPowNat

structure Metrics where
  batches : Nat := 0
  roundsDecoded : Nat := 0
  roundsDelivered : Nat := 0
  eventsSkipped : Nat := 0
  callbackFailures : Nat := 0
  reconnections : Nat := 0
  deriving DecidableEq, Repr

/-- What a source does when it is asked to connect. A stream gives these items at once; it may then
stay open for more. -/
inductive Opening where
  | refused
  | stream (items : List Item) (stays : Bool)

inductive Phase where
  | idle
  | live (fruitful : Bool)
  | waiting (due : Nat)
  | stopped
  deriving DecidableEq, Repr

structure Consumer (β : Type) where
  settings : Settings
  hub : Hub β := {}
  metrics : Metrics := {}
  phase : Phase := .idle
  failures : UInt32 := 0
  now : Nat := 0
  attempts : List Nat := []
  /-- How the source will open next; after that, its streams stay open. -/
  plan : List Opening := []
  /-- Whether the source still holds a stream, which the consumer may have left. -/
  sourceOpen : Bool := false

inductive Input (β : Type) where
  | subscribe (contract : String) (callback : β)
  | cancel (id : Nat)
  | start
  | destroy
  | expect (openings : List Opening)
  | push (item : Item)
  | endStream
  | pass (time : Nat)

namespace Consumer

variable {β : Type}

def isRunning (c : Consumer β) : Bool :=
  match c.phase with
  | .live _ | .waiting _ => true
  | .idle | .stopped => false

def isLive (c : Consumer β) : Bool :=
  match c.phase with
  | .live _ => true
  | _ => false

def lose (fruitful : Bool) (c : Consumer β) : Consumer β :=
  let failures := if fruitful then 0 else UInt32.ofNat (min (c.failures.toNat + 1) (2 ^ (32 : Nat) - 1))
  { c with
    failures
    phase := .waiting (c.now + c.settings.wait failures)
    metrics := { c.metrics with reconnections := c.metrics.reconnections + 1 }
    sourceOpen := false }

/-- Where it would have to wait, a consumer stops if a callback has closed its hub. -/
def halt (c : Consumer β) : Consumer β :=
  if c.hub.closed then { c with phase := .stopped } else c

theorem halt_of_closed {c : Consumer β} (hclosed : c.hub.closed = true) :
    c.halt = { c with phase := .stopped } :=
  if_pos hclosed

theorem halt_of_open {c : Consumer β} (hopen : c.hub.closed = false) : c.halt = c :=
  if_neg (by rw [hopen]; decide)

def deliver (react : Behaviour β) (batch : List TxResult) (c : Consumer β) : Consumer β :=
  let groups := batch.map TxResult.group
  let rounds := (extractSourcedRounds groups).found
  let hub := c.hub.deliver react rounds
  let calls := hub.calls.drop c.hub.calls.length
  { c with
    hub
    metrics := { c.metrics with
      batches := c.metrics.batches + 1
      roundsDecoded := c.metrics.roundsDecoded + rounds.length
      roundsDelivered := c.metrics.roundsDelivered + calls.countP (!·.failed)
      eventsSkipped := c.metrics.eventsSkipped + (transmissionCount groups - rounds.length)
      callbackFailures := c.metrics.callbackFailures + calls.countP (·.failed) }
    phase := .live true }

def receive (react : Behaviour β) (c : Consumer β) (item : Item) : Consumer β :=
  match c.phase, item with
  | .live _, .ok batch => c.deliver react batch
  | .live fruitful, .error _ => (c.lose fruitful).halt
  | _, _ => c

def finish (c : Consumer β) : Consumer β :=
  match c.phase with
  | .live fruitful => (c.lose fruitful).halt
  | _ => { c with sourceOpen := false }

def connect (react : Behaviour β) (c : Consumer β) (opening : Opening) : Consumer β :=
  let c := { c with attempts := c.attempts ++ [c.now] }
  match opening with
  | .refused => c.lose false
  | .stream items stays =>
    let c := items.foldl (receive react) { c with phase := .live false, sourceOpen := true }
    if stays then c.halt else c.finish

def due? (limit : Nat) (c : Consumer β) : Option Nat :=
  match c.phase with
  | .waiting due => if due ≤ limit then some due else none
  | _ => none

/-- Make all connections that are due up to `limit`, opened as planned. -/
def reconnect (react : Behaviour β) (limit : Nat) : List Opening → Consumer β → Consumer β
  | plan, c =>
    match c.due? limit, plan with
    | none, plan => { c with plan }
    | some due, [] => { { c with now := due }.connect react (.stream [] true) with plan := [] }
    | some due, opening :: rest =>
      reconnect react limit rest ({ c with now := due }.connect react opening)

/-! ### What is done to a consumer from outside -/

def settle (react : Behaviour β) (c : Consumer β) : Consumer β :=
  reconnect react c.now c.plan c

def pass (react : Behaviour β) (time : Nat) (c : Consumer β) : Consumer β :=
  { reconnect react (c.now + time) c.plan c with now := c.now + time }

def start (react : Behaviour β) (c : Consumer β) : Consumer β :=
  match c.phase with
  | .idle => settle react { c with phase := .waiting c.now }
  | _ => c

def destroy (c : Consumer β) : Consumer β :=
  { c with hub := c.hub.close, phase := .stopped }

def expect (openings : List Opening) (c : Consumer β) : Consumer β :=
  { c with plan := c.plan ++ openings }

/-- An item comes; after an error the source holds no stream. -/
def push (react : Behaviour β) (item : Item) (c : Consumer β) : Consumer β :=
  let c := c.receive react item
  settle react <| match item with
    | .ok _ => c.halt
    | .error _ => c.finish

def endStream (react : Behaviour β) (c : Consumer β) : Consumer β :=
  settle react c.finish

def step (react : Behaviour β) (c : Consumer β) : Input β → Consumer β
  | .subscribe contract callback => { c with hub := c.hub.subscribe contract callback }
  | .cancel id => { c with hub := c.hub.cancel id }
  | .start => c.start react
  | .destroy => c.destroy
  | .expect openings => c.expect openings
  | .push item => c.push react item
  | .endStream => c.endStream react
  | .pass time => c.pass react time

def run (react : Behaviour β) (c : Consumer β) (inputs : List (Input β)) : Consumer β :=
  inputs.foldl (step react) c

end Consumer
end Countersign.Feed
