import Countersign.Record
import Countersign.Text.Blank

/-! How many approvals a multisig asks for. -/

namespace Countersign

attribute [local instance (high)] instPowNat

/-- The rule that a multisig reports. Only the absolute ones fix a number of approvals. -/
inductive Threshold where
  | absoluteCount (weight : UInt64)
  | absolutePercentage (percentage : String) (totalWeight : UInt64)
  | quorum
  deriving DecidableEq, Repr

def splitPoint (cs : List Char) : List Char × List Char :=
  (cs.takeWhile (· != '.'), (cs.dropWhile (· != '.')).drop 1)

/-- `total` times the decimal number `percentage`, rounded up. The digits around the point are read
as one number, which is then scaled by the places after the point, counted in 32 bits. -/
def ceilPercentage? (percentage : List Char) (total : Nat) : Option Nat := do
  let (whole, fraction) := splitPoint (Text.trimmed percentage)
  let digits ← Text.unsigned? (whole ++ fraction)
  let scale := 10 ^ (fraction.length % 2 ^ (32 : Nat))
  let product := digits * total
  let required := product / scale + if product % scale = 0 then 0 else 1
  if required < 2 ^ (64 : Nat) then some required else none

namespace Threshold

def required : Threshold → Except String UInt64
  | .absoluteCount weight => .ok weight
  | .absolutePercentage percentage total =>
    match ceilPercentage? percentage.toList total.toNat with
    | some n => .ok (UInt64.ofNat n)
    | none => .error s!"absolute_percentage {percentage}"
  | .quorum => .error "threshold_quorum"

def read? (v : Json) : Option Threshold := do
  let (name, content) ← Record.variant? v
  match name with
  | "absolute_count" =>
    let f ← Record.content? ["weight", "total_weight"] content
    let weight ← f.required? "weight" Record.word64?
    let _ ← f.withDefault? "total_weight" Record.word64? 0
    return .absoluteCount weight
  | "absolute_percentage" =>
    let f ← Record.content? ["percentage", "total_weight"] content
    return .absolutePercentage (← f.required? "percentage" Record.text?)
      (← f.required? "total_weight" Record.word64?)
  | "threshold_quorum" =>
    let f ← Record.content? ["threshold", "quorum", "total_weight"] content
    let _ ← f.required? "threshold" Record.text?
    let _ ← f.required? "quorum" Record.text?
    let _ ← f.required? "total_weight" Record.word64?
    return .quorum
  | _ => none

end Threshold

end Countersign
