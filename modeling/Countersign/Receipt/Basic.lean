import Countersign.Record

/-! What a receipt says about one message of a transaction: events, each with its attributes in order. -/

namespace Countersign

structure Attribute where
  key : String
  value : String
  deriving DecidableEq, Repr

structure Event where
  kind : String
  attributes : List Attribute
  deriving DecidableEq, Repr

structure TxResult where
  index : Option UInt32 := none
  log : Option String := none
  events : List Event := []
  deriving DecidableEq, Repr

variable {α : Type} [Source α]

namespace Attribute

def read? (v : α) : Option Attribute := do
  let f ← Record.fields? ["key", "value"] v
  return {
    key := ← f.required? "key" Record.text?
    value := ← f.withDefault? "value" Record.text? "" }

def toJson (a : Attribute) : Json :=
  .ofEntries [("key", .text a.key), ("value", .text a.value)]

end Attribute

namespace Event

def read? (v : α) : Option Event := do
  let f ← Record.fields? ["type", "attributes"] v
  return {
    kind := ← f.required? "type" Record.text?
    attributes := ← f.withDefault? "attributes" (Record.list? Attribute.read?) [] }

def toJson (e : Event) : Json :=
  .ofEntries [("type", .text e.kind), ("attributes", .list (e.attributes.map Attribute.toJson))]

end Event

namespace TxResult

def read? (v : α) : Option TxResult := do
  let f ← Record.fields? ["msg_index", "log", "events"] v
  return {
    index := ← f.withDefault? "msg_index" (Record.nullable? Record.word32?) none
    log := ← f.withDefault? "log" (Record.nullable? Record.text?) none
    events := ← f.withDefault? "events" (Record.list? Event.read?) [] }

def toJson (r : TxResult) : Json :=
  .ofEntries <|
    (r.index.map fun n => ("msg_index", Json.ofNat n.toNat)).toList ++
    (r.log.map fun s => ("log", Json.text s)).toList ++
    [("events", .list (r.events.map Event.toJson))]

end TxResult
end Countersign
