import Countersign.Base64
import Countersign.Json.Writer
import Countersign.Message.Coin

/-!
Messages as a proposal stores them, and the form in which two of them are compared: coins by denom
with plain amounts, JSON payloads without white space and with sorted keys.
-/

namespace Countersign

/-- Base64 of the text of a value with the keys of its objects in ascending order. -/
def encodeJson (v : Json) : String :=
  Base64.ofText v.sorted.write

inductive StoredMessage where
  | bankSend (recipient : String) (amount : List Coin)
  | wasmExecute (contract : String) (payload : String) (funds : List Coin)
  deriving DecidableEq, Repr

namespace StoredMessage

def kind : StoredMessage → String
  | .bankSend .. => "bank"
  | .wasmExecute .. => "wasm"

def read? (v : Json) : Option StoredMessage := do
  let (module, content) ← Record.variant? v
  let (name, content) ← Record.variant? (← content)
  match module, name with
  | "bank", "send" =>
    let f ← Record.content? ["to_address", "amount"] content
    return .bankSend (← f.required? "to_address" Record.text?)
      (← f.required? "amount" (Record.list? Coin.read?))
  | "wasm", "execute" =>
    let f ← Record.content? ["contract_addr", "msg", "funds"] content
    return .wasmExecute (← f.required? "contract_addr" Record.text?)
      (← f.required? "msg" Record.text?) (← f.required? "funds" (Record.list? Coin.read?))
  | _, _ => none

def toJson : StoredMessage → Json
  | .bankSend recipient amount =>
    .ofEntries [("bank", .ofEntries [("send", .ofEntries [
      ("to_address", .text recipient),
      ("amount", .list (amount.map Coin.toJson))])])]
  | .wasmExecute contract payload funds =>
    .ofEntries [("wasm", .ofEntries [("execute", .ofEntries [
      ("contract_addr", .text contract),
      ("msg", .text payload),
      ("funds", .list (funds.map Coin.toJson))])])]

def summary : Json → String
  | .object entries => ",".intercalate (entries.map Prod.fst)
  | v => v.write

def ofJson (v : Json) : Except MessageError StoredMessage :=
  match read? v with
  | some m => .ok m
  | none => .error (.unsupported (summary v))

/-- A payload encoded anew. Bytes that are no JSON text stay as they are. -/
def canonicalPayload (payload : String) : Except MessageError String :=
  match Base64.decode? (Text.trimmed payload.toList) with
  | none => .error .invalidBase64
  | some bytes =>
    match (Base64.toText? bytes).bind Json.parse? with
    | some v => .ok (encodeJson v)
    | none => .ok (Base64.ofBytes bytes)

def canonical : StoredMessage → Except MessageError StoredMessage
  | .bankSend recipient amount => do
    return .bankSend recipient (← Coin.canonicalList amount)
  | .wasmExecute contract payload funds => do
    return .wasmExecute contract (← canonicalPayload payload) (← Coin.canonicalList funds)

def same (a b : StoredMessage) : Except MessageError Bool := do
  return (← a.canonical) == (← b.canonical)

/-- Messages in step; the first pair that differs ends the comparison. -/
def allSame : List StoredMessage → List StoredMessage → Except MessageError Bool
  | a :: as, b :: bs => do
    if ← a.same b then allSame as bs else return false
  | _, _ => return true

end StoredMessage

def messagesMatch (stored generated : List StoredMessage) : Except MessageError Bool :=
  if stored.length = generated.length then StoredMessage.allSame stored generated
  else .ok false

end Countersign
