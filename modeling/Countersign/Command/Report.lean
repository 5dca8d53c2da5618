import Countersign.Multisig.Run
import Countersign.Json.Writer
import Countersign.Oracle.Extract
import Countersign.Oracle.Wire

/-! What commands print: results, and faults with their causes. -/

namespace Countersign

structure Report where
  code : Nat := 0
  output : List String := []
  errors : List String := []
  deriving DecidableEq, Repr

/-- What went wrong and why, the nearest cause first. -/
structure Fault where
  message : String
  causes : List String := []
  deriving DecidableEq, Repr

namespace Fault

/-- Text whose first line starts with `lead` and whose other lines are as far in. -/
def hanging (lead text : String) : String :=
  lead ++ ("\n" ++ String.ofList (List.replicate lead.length ' ')).intercalate (text.splitOn "\n")

def causeTexts : List String → List String
  | [cause] => [hanging "    " cause]
  | causes => causes.zipIdx.map fun (cause, i) =>
    let number := toString i
    hanging (String.ofList (List.replicate (5 - number.length) ' ') ++ number ++ ": ") cause

def lines (f : Fault) : List String :=
  ("Error: " ++ f.message) ::
    if f.causes.isEmpty then [] else "" :: "Caused by:" :: causeTexts f.causes

def report (f : Fault) (printed : List String) : Report where
  code := 1
  output := printed
  errors := f.lines

end Fault

def ResolveError.fault (e : ResolveError) : Fault where
  message := e.message
  causes := match e with
    | .query _ source => [source.message]
    | .incomparable source => [source.message]
    | _ => []

def DispatchError.fault (e : DispatchError) : Fault where
  message := e.message
  causes := match e with
    | .incomparable source => [source.message]
    | _ => []

def RunError.fault : RunError → Fault
  | .resolve e => e.fault
  | .dispatch e => e.fault

namespace Report

def pretty (v : Json) : List String :=
  [v.pretty]

/-! ### Receipts -/

def groupLines (position : Nat) (g : EventGroup) : List String :=
  s!"Result #{position}:" :: g.merged.flatMap fun (kind, attrs) =>
    ("  " ++ kind) :: attrs.map fun (key, values) =>
      "    " ++ key ++ ": " ++ ", ".intercalate values

def transmissionLine (t : Transmission) : String :=
  let source := t.contract.getD "unknown contract"
  s!"  round {t.round} epoch {t.epoch}: answer {t.answer} ({source})"

def transmissionLines (groups : List EventGroup) : List String :=
  let found := (extractTransmissions groups).found
  let skipped := transmissionCount groups - found.length
  s!"Transmissions: {found.length}" :: found.map transmissionLine ++
    if 0 < skipped then [s!"Skipped malformed: {skipped}"] else []

def decoded (rounds json : Bool) (raw : String) : Report :=
  let groups := (Receipt.decodeText raw).groups
  if groups.isEmpty then
    { code := 1
      errors := ["✗ No events decoded (input is not a JSON array of transaction results)"] }
  else
    { output :=
        match rounds, json with
        | true, true =>
          pretty (.list ((extractTransmissions groups).found.map Transmission.toOrderedJson))
        | true, false => transmissionLines groups
        | false, true => pretty (.list (groups.map EventGroup.toOrderedJson))
        | false, false => groups.zipIdx.flatMap fun (g, i) => groupLines i g }

/-! ### Instructions and proposals -/

def instructions : Report where
  output := Instruction.all.flatMap fun i =>
    (i.id ++ "  [" ++ i.category ++ "]") :: i.examples.map ("    " ++ ·)

def inspection (r : Resolution) : List String :=
  [r.inspectionMessage, "", r.postInstructions]

def outcomeLines (multisig : String) : Option DispatchOutcome → List String
  | none => ["No action needed"]
  | some (.encoded action _ message) =>
    ["", s!"Next action: {action.name}", s!"Message to sign and send to {multisig}:", message]
  | some (.submitted _ hash _ _) => [s!"TX: {hash}"]

def run (multisig : String) (json : Bool) (r : RunReport) : List String :=
  if json then pretty (.ofOption DispatchOutcome.toOrderedJson r.outcome)
  else
    r.resolution.inspectionMessage :: outcomeLines multisig r.outcome ++ ["", r.postInstructions]

def roundLine (r : Round) : String :=
  s!"round {r.round} epoch {r.epoch}: {r.answer}"

end Report
end Countersign
