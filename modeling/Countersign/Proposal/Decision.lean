import Countersign.Proposal.Error
import Countersign.Proposal.Snapshot

/-! The decision table: what a signer does next about a proposal. -/

namespace Countersign

def Snapshot.action (s : Snapshot) (threshold : UInt64) (approved : Bool) : NextAction :=
  match s.status with
  | .executed | .rejected | .none => .none
  | .passed => .execute
  | .pending | .open =>
    if threshold.toNat ≤ s.approvers.length then .execute
    else if approved then .none
    else .approve

/-- The next step of a signer who holds `candidate`. To approve or execute, the stored messages have
to be that candidate and nothing else. -/
def nextAction (snapshot : Option Snapshot) (threshold : UInt64) (candidate : StoredMessage)
    (approved : Bool) : Except ResolveError NextAction :=
  match snapshot with
  | none => .ok .create
  | some s =>
    match s.action threshold approved with
    | .approve => confirm s .approve
    | .execute => confirm s .execute
    | action => .ok action
where
  confirm (s : Snapshot) (action : NextAction) : Except ResolveError NextAction :=
    match messagesMatch s.messages [candidate] with
    | .ok true => .ok action
    | .ok false => .error (.messageMismatch s.id)
    | .error e => .error (.incomparable e)

end Countersign
