import Countersign.Message.Stored

/-! Messages built locally, before they are signed or proposed. -/

namespace Countersign

inductive Message where
  | send (sender recipient : String) (amount : List Coin)
  | execute (sender contract : String) (call : Json) (coins : List Coin)
  deriving Repr

namespace Message

def call (sender contract : String) (body : Json) : Message :=
  .execute sender contract body []

/-- The tag of a record and the record without it: the entry `type` of an object, or the first item
of a list. -/
def tagged? : Json → Option (String × Json)
  | .object entries => do
    let tag ← (← entries.lookup "type").text?
    return (tag, .object (entries.filter (·.1 != "type")))
  | .list (.text tag :: rest) => some (tag, .list rest)
  | _ => none

def read? (v : Json) : Option Message := do
  let (tag, rest) ← tagged? v
  match tag with
  | "send" =>
    let f ← Record.fields? ["from_address", "to_address", "amount"] rest
    return .send (← f.required? "from_address" Record.text?)
      (← f.required? "to_address" Record.text?)
      (← f.required? "amount" (Record.list? Coin.read?))
  | "execute_contract" =>
    let f ← Record.fields? ["sender", "contract", "execute_msg", "coins"] rest
    return .execute (← f.required? "sender" Record.text?) (← f.required? "contract" Record.text?)
      (← f.required? "execute_msg" some) (← f.withDefault? "coins" (Record.list? Coin.read?) [])
  | _ => none

def toJson : Message → Json
  | .send sender recipient amount =>
    .ofEntries [
      ("type", .text "send"),
      ("from_address", .text sender),
      ("to_address", .text recipient),
      ("amount", .list (amount.map Coin.toJson))]
  | .execute sender contract call coins =>
    .ofEntries [
      ("type", .text "execute_contract"),
      ("sender", .text sender),
      ("contract", .text contract),
      ("execute_msg", call),
      ("coins", .list (coins.map Coin.toJson))]

def normalize : Message → Except MessageError StoredMessage
  | .send _ recipient amount => do
    return .bankSend recipient (← Coin.canonicalList amount)
  | .execute _ contract call coins => do
    return .wasmExecute contract (encodeJson call) (← Coin.canonicalList coins)

end Message
end Countersign
