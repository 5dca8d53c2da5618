import Countersign.Receipt.Decode

/-! The receipt of a broadcast transaction. Its events are in `logs` or, if that is empty, in `rawLog`. -/

namespace Countersign

structure TxReceipt where
  hash : String
  logs : List TxResult
  rawLog : String
  code : UInt32
  deriving DecidableEq, Repr

namespace TxReceipt

/-- The hash may also be called `txhash`. -/
def read? (v : Json) : Option TxReceipt := do
  let f ← Record.fieldsWith? [("txhash", "hash")] ["hash", "logs", "raw_log", "code"] v
  return {
    hash := ← f.required? "hash" Record.text?
    logs := ← f.withDefault? "logs" (Record.list? TxResult.read?) []
    rawLog := ← f.withDefault? "raw_log" Record.text? ""
    code := ← f.withDefault? "code" Record.word32? 0 }

def toJson (r : TxReceipt) : Json :=
  .ofEntries [
    ("hash", .text r.hash),
    ("logs", .list (r.logs.map TxResult.toJson)),
    ("raw_log", .text r.rawLog),
    ("code", .ofNat r.code.toNat)]

def events (r : TxReceipt) : List EventGroup :=
  if r.logs.isEmpty then (Receipt.decodeText r.rawLog).groups
  else (Receipt.ofResults r.logs).groups

end TxReceipt
end Countersign
