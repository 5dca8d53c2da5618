import Countersign.Oracle.Round

/-! JSON records of rounds and transmissions. Numbers of any size are written as decimal text. -/

namespace Countersign

def Json.ofBig (i : Int) : Json :=
  .text (String.ofList (if i < 0 then '-' :: Nat.toDigits 10 i.natAbs else Nat.toDigits 10 i.natAbs))

namespace Record

variable {α β : Type} [Source α]

/-- A number written as text; the text is not trimmed. -/
def written? (read : List Char → Option β) (v : α) : Option β :=
  (text? v).bind fun s => read s.toList

end Record

namespace Round

def read? (v : Json) : Option Round := do
  let f ← Record.fields? ["answer", "round", "epoch"] v
  return {
    answer := ← f.required? "answer" (Record.written? Text.signed?)
    round := ← f.required? "round" Record.word32?
    epoch := ← f.required? "epoch" Record.word32? }

def toJson (r : Round) : Json :=
  .ofEntries [
    ("answer", .ofBig r.answer),
    ("round", .ofNat r.round.toNat),
    ("epoch", .ofNat r.epoch.toNat)]

end Round

namespace Transmission

def fieldNames : List String :=
  ["contract_address", "aggregator_round_id", "answer", "round", "epoch", "transmitter",
    "config_digest", "observations_timestamp", "observers", "observations", "juels_per_fee_coin",
    "reimbursement"]

/-- The two fees have to be there, though they may be null. -/
def read? (v : Json) : Option Transmission := do
  let f ← Record.fields? fieldNames v
  return {
    contract := ← f.optional? "contract_address" Record.text?
    aggregatorRoundId := ← f.optional? "aggregator_round_id" Record.word32?
    answer := ← f.required? "answer" (Record.written? Text.signed?)
    round := ← f.required? "round" Record.word32?
    epoch := ← f.required? "epoch" Record.word32?
    transmitter := ← f.optional? "transmitter" Record.text?
    configDigest := ← f.optional? "config_digest" Record.text?
    observationsTimestamp := ← f.optional? "observations_timestamp" Record.word64?
    observers := ← f.optional? "observers" Record.text?
    observations := ← f.required? "observations" (Record.list? (Record.written? Text.signed?))
    juelsPerFeeCoin := ← f.required? "juels_per_fee_coin"
      (Record.nullable? (Record.written? Text.unsigned?))
    reimbursement := ← f.required? "reimbursement"
      (Record.nullable? (Record.written? Text.unsigned?)) }

def toOrderedJson (t : Transmission) : Json :=
  .object [
    ("contract_address", .ofOption .text t.contract),
    ("aggregator_round_id", .ofOption (.ofNat ·.toNat) t.aggregatorRoundId),
    ("answer", .ofBig t.answer),
    ("round", .ofNat t.round.toNat),
    ("epoch", .ofNat t.epoch.toNat),
    ("transmitter", .ofOption .text t.transmitter),
    ("config_digest", .ofOption .text t.configDigest),
    ("observations_timestamp", .ofOption (.ofNat ·.toNat) t.observationsTimestamp),
    ("observers", .ofOption .text t.observers),
    ("observations", .list (t.observations.map .ofBig)),
    ("juels_per_fee_coin", .ofOption (.ofBig ∘ Int.ofNat) t.juelsPerFeeCoin),
    ("reimbursement", .ofOption (.ofBig ∘ Int.ofNat) t.reimbursement)]

def toJson (t : Transmission) : Json :=
  t.toOrderedJson.sorted

end Transmission
end Countersign
