import Countersign.Receipt.Basic

/-! What comes from a feed of transactions and why it ends, where it comes from, and how long to wait before
connecting to it again. -/

namespace Countersign

inductive FeedError where
  | connectionFailed (url reason : String)
  | subscriptionRejected (query reason : String)
  | closed
  | invalidUrl (url : String)
  deriving DecidableEq, Repr

def FeedError.message : FeedError → String
  | .connectionFailed url reason => s!"RPC connection failed: {url}: {reason}"
  | .subscriptionRejected query reason => s!"Subscription to '{query}' was rejected: {reason}"
  | .closed => "Stream closed unexpectedly"
  | .invalidUrl url => s!"Invalid endpoint URL '{url}'"

/-- The results of one transaction, or the error that ends the stream. -/
abbrev Feed.Item := Except FeedError (List TxResult)

namespace Feed

attribute [local instance (high)] instPowNat

structure Settings where
  url : String := "ws://localhost:26657/websocket"
  query : String := "tm.event='Tx'"
  delay : UInt64 := 500
  maxDoublings : UInt32 := 6
  capacity : UInt64 := 512
  deriving DecidableEq, Repr

namespace Settings

def read? (v : Json) : Option Settings := do
  let f ← Record.fields? ["ws_url", "query", "backoff_ms", "max_backoff_exp", "channel_capacity"] v
  let standard : Settings := {}
  return {
    url := ← f.required? "ws_url" Record.text?
    query := ← f.withDefault? "query" Record.text? standard.query
    delay := ← f.withDefault? "backoff_ms" Record.word64? standard.delay
    maxDoublings := ← f.withDefault? "max_backoff_exp" Record.word32? standard.maxDoublings
    capacity := ← f.withDefault? "channel_capacity" Record.word64? standard.capacity }

def toJson (s : Settings) : Json :=
  .ofEntries [
    ("ws_url", .text s.url),
    ("query", .text s.query),
    ("backoff_ms", .ofNat s.delay.toNat),
    ("max_backoff_exp", .ofNat s.maxDoublings.toNat),
    ("channel_capacity", .ofNat s.capacity.toNat)]

/-- The wait after `failures` connections in a row that gave nothing. It doubles with each of them as
often as is allowed, and is at most what 64 bits hold. Doubling more than 64 times changes nothing. -/
def wait (s : Settings) (failures : UInt32) : Nat :=
  min (s.delay.toNat * 2 ^ min 64 (min failures.toNat s.maxDoublings.toNat)) (2 ^ (64 : Nat) - 1)

end Settings
end Feed
end Countersign
