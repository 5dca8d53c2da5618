import Countersign.Proposal.Snapshot

/-! The state that a resolution finds, and the reports made of it. -/

namespace Countersign

structure ProposalState where
  id : Option UInt64
  status : ProposalStatus
  approvers : Roster
  threshold : UInt64
  stored : List StoredMessage
  action : NextAction
  deriving DecidableEq, Repr

namespace ProposalState

def absent (threshold : UInt64) : ProposalState :=
  ⟨none, .none, [], threshold, [], .create⟩

def ofSnapshot (s : Snapshot) (threshold : UInt64) (action : NextAction) : ProposalState :=
  ⟨some s.id, s.status, s.approvers, threshold, s.messages, action⟩

def approvalsLeft (p : ProposalState) : Nat :=
  p.threshold.toNat - p.approvers.length

def toJson (p : ProposalState) : Json :=
  .ofEntries <|
    (p.id.map fun id => ("proposalId", Json.ofNat id.toNat)).toList ++ [
      ("currentStatus", p.status.toJson),
      ("approvers", .list (p.approvers.map .text)),
      ("threshold", .ofNat p.threshold.toNat),
      ("storedMessages", .list (p.stored.map StoredMessage.toJson)),
      ("nextAction", p.action.toJson)]

end ProposalState

structure MultisigState where
  address : String
  group : String
  owners : List String
  threshold : UInt64
  deriving DecidableEq, Repr

def MultisigState.toJson (m : MultisigState) : Json :=
  .ofEntries [
    ("address", .text m.address),
    ("group", .text m.group),
    ("owners", .list (m.owners.map .text)),
    ("threshold", .ofNat m.threshold.toNat)]

structure Resolution where
  multisig : MultisigState
  proposal : ProposalState
  deriving DecidableEq, Repr

namespace Resolution

def toJson (r : Resolution) : Json :=
  .ofEntries [("multisig", r.multisig.toJson), ("proposal", r.proposal.toJson)]

def inspectionLines (r : Resolution) : List String :=
  let m := r.multisig
  let p := r.proposal
  let id := match p.id with
    | some id => toString id
    | none => "none"
  ["Multisig State:", s!"  - Address: {m.address}", s!"  - Group: {m.group}",
    s!"  - Threshold: {m.threshold}", s!"  - Total Owners: {m.owners.length}",
    "  - Owners List:"] ++ m.owners.map ("      " ++ ·) ++
  ["Proposal State:", s!"  - Proposal ID: {id}", s!"  - Status: {p.status.name}",
    s!"  - Total Approvers: {p.approvers.length}", "  - Approvers List:"] ++
  p.approvers.map ("      " ++ ·) ++ [s!"  - Next Action: {p.action.name}"]

def inspectionMessage (r : Resolution) : String :=
  "\n".intercalate r.inspectionLines

def postInstructions (r : Resolution) : String :=
  match r.proposal.id with
  | none => "No proposal found. Run the same command without --proposal to create one"
  | some id =>
    match r.proposal.status with
    | .passed => "The proposal reached the threshold and can be executed. " ++
        s!"Run the same command with the flag --proposal={id}"
    | .open | .pending => s!"The proposal needs {r.proposal.approvalsLeft} more approvals. " ++
        s!"Run the same command with the flag --proposal={id}"
    | .rejected => "The proposal has been rejected. No actions available"
    | .executed => "The proposal has been executed. No more actions needed"
    | .none => s!"Proposal {id} not found"

end Resolution
end Countersign
