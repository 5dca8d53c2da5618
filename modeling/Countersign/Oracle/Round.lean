import Countersign.Receipt.Group
import Countersign.Text.Blank
import Countersign.Text.Quoted

/-! Oracle rounds and full transmissions, each decoded from the attributes of its own event. -/

namespace Countersign

/-- The event that an aggregator emits for every accepted report. -/
def newTransmission : String := "wasm-new_transmission"

inductive DecodeError where
  | missingAttribute (event key : String)
  | invalidInteger (key value : String)
  | missingEvent (event : String)
  deriving DecidableEq, Repr

def DecodeError.message : DecodeError → String
  | .missingAttribute event key =>
    s!"Event '{event}' is missing required attribute '{key}'"
  | .invalidInteger key value =>
    s!"Attribute '{key}' is not a valid integer: {Text.quoted value}"
  | .missingEvent event => s!"Event group has no '{event}' event"

namespace Attributes

variable {α : Type}

def text? (attrs : Attributes) (key : String) : Option String :=
  (attrs.get? key).bind List.head?

def integer (read : List Char → Option α) (key value : String) : Except DecodeError α :=
  match read (Text.trimmed value.toList) with
  | some a => .ok a
  | none => .error (.invalidInteger key value)

def required (read : List Char → Option α) (attrs : Attributes) (key : String) :
    Except DecodeError α :=
  match text? attrs key with
  | some value => integer read key value
  | none => .error (.missingAttribute newTransmission key)

def optional (read : List Char → Option α) (attrs : Attributes) (key : String) :
    Except DecodeError (Option α) :=
  match text? attrs key with
  | some value => (integer read key value).map some
  | none => .ok none

end Attributes

structure Round where
  answer : Int
  round : UInt32
  epoch : UInt32
  deriving DecidableEq, Repr

structure SourcedRound where
  contract : Option String
  round : Round
  deriving DecidableEq, Repr

structure Transmission where
  contract : Option String
  aggregatorRoundId : Option UInt32
  answer : Int
  round : UInt32
  epoch : UInt32
  transmitter : Option String
  configDigest : Option String
  observationsTimestamp : Option UInt64
  observers : Option String
  observations : List Int
  juelsPerFeeCoin : Option Nat
  reimbursement : Option Nat
  deriving DecidableEq, Repr

def Round.decode (attrs : Attributes) : Except DecodeError Round := do
  return {
    answer := ← Attributes.required Text.signed? attrs "answer"
    round := ← Attributes.required Text.word32? attrs "round"
    epoch := ← Attributes.required Text.word32? attrs "epoch" }

def SourcedRound.decode (attrs : Attributes) : Except DecodeError SourcedRound := do
  return { round := ← Round.decode attrs, contract := Attributes.text? attrs "contract_address" }

def Transmission.decode (attrs : Attributes) : Except DecodeError Transmission := do
  let base ← Round.decode attrs
  let observations ← ((attrs.get? "observations").getD []).mapM
    (Attributes.integer Text.signed? "observations")
  return {
    contract := Attributes.text? attrs "contract_address"
    aggregatorRoundId := ← Attributes.optional Text.word32? attrs "aggregator_round_id"
    answer := base.answer
    round := base.round
    epoch := base.epoch
    transmitter := Attributes.text? attrs "transmitter"
    configDigest := Attributes.text? attrs "config_digest"
    observationsTimestamp := ← Attributes.optional Text.word64? attrs "observations_timestamp"
    observers := Attributes.text? attrs "observers"
    observations
    juelsPerFeeCoin := ← Attributes.optional Text.unsigned? attrs "juels_per_fee_coin"
    reimbursement := ← Attributes.optional Text.unsigned? attrs "reimbursement" }

def Transmission.toRound (t : Transmission) : Round :=
  ⟨t.answer, t.round, t.epoch⟩

end Countersign
