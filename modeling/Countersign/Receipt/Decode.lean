import Countersign.Json.Reader
import Countersign.Receipt.Group

/-!
Receipts in all the shapes that nodes give them: a list of results, an object that carries one, a
single result, or text that holds any of these. What cannot be decoded gives no groups and a note.
-/

namespace Countersign.Receipt

inductive Note where
  | unparseable (bytes : Nat)
  | malformedResults
  | malformedResult
  | unexpectedShape (kind : String)
  | noReceipt
  | noLogs
  deriving DecidableEq, Repr

namespace Note

def level : Note → String
  | .noReceipt | .noLogs => "DEBUG"
  | _ => "WARN"

def message : Note → String
  | .unparseable bytes => s!"Unparseable raw log ({bytes} bytes)"
  | .malformedResults => "Malformed transaction results"
  | .malformedResult => "Malformed transaction result"
  | .unexpectedShape kind => s!"Unexpected receipt shape: {kind}"
  | .noReceipt => "No receipt to decode"
  | .noLogs => "Receipt object carries no logs"

end Note

structure Decoded where
  groups : List EventGroup
  notes : List Note
  deriving DecidableEq, Repr

def Decoded.nothing (note : Note) : Decoded :=
  ⟨[], [note]⟩

def ofResults (results : List TxResult) : Decoded :=
  ⟨results.map TxResult.group, []⟩

/-- A list of results; none of them is decoded unless all can be read. -/
def decodeList (items : List Json) : Decoded :=
  match items.mapM (TxResult.read? (α := Json)) with
  | some results => ofResults results
  | none => .nothing .malformedResults

/-- An object, by the first of these that it has: results under `logs`, text under `raw_log`, the
`events` of a single result. -/
def decodeObject (text : String → Decoded) (entries : List (String × Json)) : Decoded :=
  match entries.lookup "logs" with
  | some (.list (item :: items)) => decodeList (item :: items)
  | _ =>
    match entries.lookup "raw_log" with
    | some (.text raw) => text raw
    | _ =>
      if (entries.lookup "events").isSome then
        match TxResult.read? (Json.object entries) with
        | some result => ofResults [result]
        | none => .nothing .malformedResult
      else .nothing .noLogs

def decodeWith (text : String → Decoded) : Json → Decoded
  | .null => ⟨[], []⟩
  | .text raw => text raw
  | .list items => decodeList items
  | .object entries => decodeObject text entries
  | v => .nothing (.unexpectedShape v.kind)

/-- A receipt given as text, in which texts are unwrapped at most `layers` times. -/
def decodeLayers : (layers : Nat) → String → Decoded
  | 0, raw => .nothing (.unparseable raw.utf8ByteSize)
  | layers + 1, raw =>
    match Json.parse? raw with
    | some v => decodeWith (decodeLayers layers) v
    | none => .nothing (.unparseable raw.utf8ByteSize)

/-- A receipt given as text. Each text found inside is shorter than the one that holds it. -/
def decodeText (raw : String) : Decoded :=
  decodeLayers (raw.utf8ByteSize + 1) raw

def decode : Option Json → Decoded
  | none => .nothing .noReceipt
  | some v => decodeWith decodeText v

def value? (receipt : Json) (kind key : String) : Option String :=
  (decode (some receipt)).groups.head?.bind (·.first? kind key)

end Countersign.Receipt
