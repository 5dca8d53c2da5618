import Countersign.Oracle.Round
import Countersign.Receipt.Decode

/-! The rounds of a receipt: every transmission event in order, those that decode and those skipped. -/

namespace Countersign

/-- What decoded, and the position and fault of each transmission that did not. -/
structure Extraction (α : Type) where
  found : List α
  skipped : List (Nat × DecodeError)

def transmissionEvents (groups : List EventGroup) : List Attributes :=
  groups.flatMap (·.occurrences newTransmission)

namespace Extraction

variable {α : Type}

def decodeFrom (decode : Attributes → Except DecodeError α) : Nat → List Attributes → Extraction α
  | _, [] => ⟨[], []⟩
  | position, attrs :: rest =>
    let later := decodeFrom decode (position + 1) rest
    match decode attrs with
    | .ok a => { later with found := a :: later.found }
    | .error e => { later with skipped := (position, e) :: later.skipped }

def of (decode : Attributes → Except DecodeError α) (groups : List EventGroup) : Extraction α :=
  decodeFrom decode 0 (transmissionEvents groups)

def skipMessages (x : Extraction α) : List String :=
  x.skipped.map fun (position, e) =>
    s!"Skipping transmission #{position}: {e.message}"

end Extraction

def extractRounds : List EventGroup → Extraction Round :=
  .of Round.decode

def extractSourcedRounds : List EventGroup → Extraction SourcedRound :=
  .of SourcedRound.decode

def extractTransmissions : List EventGroup → Extraction Transmission :=
  .of Transmission.decode

def transmissionCount (groups : List EventGroup) : Nat :=
  (transmissionEvents groups).length

def Round.ofGroup (g : EventGroup) : Except DecodeError Round :=
  match g.occurrences newTransmission with
  | attrs :: _ => Round.decode attrs
  | [] => .error (.missingEvent newTransmission)

def roundsOfText (raw : String) : List Round :=
  (extractRounds (Receipt.decodeText raw).groups).found

end Countersign
