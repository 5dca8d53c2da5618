import Countersign.Multisig.Call
import Countersign.Node.Dialogue
import Countersign.Oracle.Relay
import Countersign.Proposal.Resolution

/-! Turning a resolved step into the call that performs it, encoded for others or submitted. -/

namespace Countersign

inductive DispatchMode where
  | dryRun
  | submit
  deriving DecidableEq, Repr

inductive DispatchError where
  | noActionNeeded
  | missingProposalId (action : NextAction)
  | proposalMismatch (id : UInt64)
  | missingSubmitter
  | submission (text : String)
  | txFailed (hash : String) (code : UInt32) (log : String)
  | incomparable (source : MessageError)
  deriving DecidableEq, Repr

def DispatchError.message : DispatchError → String
  | .noActionNeeded => "No action needed"
  | .missingProposalId action => s!"Action {action.name} requires a proposal id"
  | .proposalMismatch id =>
    s!"The transaction generated is different from the proposal provided (proposal {id})"
  | .missingSubmitter => "Submission requested but no submitter is configured"
  | .submission text => text
  | .txFailed hash code log => s!"Transaction {hash} failed with code {code}: {log}"
  | .incomparable source => s!"Message error: {source.message}"

abbrev AfterExecute := List EventGroup → Option (List (String × Json))

inductive DispatchOutcome where
  | encoded (action : NextAction) (id : Option UInt64) (message : String)
  | submitted (action : NextAction) (hash : String) (id : Option UInt64)
      (data : List (String × Json))
  deriving Repr

namespace DispatchOutcome

def id? : DispatchOutcome → Option UInt64
  | .encoded _ id _ => id
  | .submitted _ _ id _ => id

def toOrderedJson : DispatchOutcome → Json
  | .encoded action id message =>
    .object [
      ("kind", .text "encoded"),
      ("action", action.toJson),
      ("proposal_id", .ofOption (.ofNat ·.toNat) id),
      ("message", .text message)]
  | .submitted action hash id data =>
    .object [
      ("kind", .text "submitted"),
      ("action", action.toJson),
      ("tx_hash", .text hash),
      ("proposal_id", .ofOption (.ofNat ·.toNat) id),
      ("data", .object data)]

end DispatchOutcome

/-- `title` is the command that a proposal comes from; `connected` says that there is a submitter. -/
structure Dispatcher where
  multisig : String
  title : String
  mode : DispatchMode := .dryRun
  connected : Bool := false
  afterExecute : Option AfterExecute := none

namespace Dispatcher

def callFor (d : Dispatcher) (action : NextAction) (id : Option UInt64) (candidate : Message) :
    Except DispatchError MultisigCall :=
  match action, id with
  | .none, _ => .error .noActionNeeded
  | .create, _ =>
    match candidate.normalize with
    | .ok m => .ok (.propose d.title d.title [m])
    | .error e => .error (.incomparable e)
  | .approve, some id => .ok (.vote id "yes")
  | .execute, some id => .ok (.execute id)
  | action, none => .error (.missingProposalId action)

def messageFor (d : Dispatcher) (action : NextAction) (signer : String) (id : Option UInt64)
    (candidate : Message) : Except DispatchError Message :=
  (d.callFor action id candidate).map fun call => .call signer d.multisig call.toJson

/-- Before an approval or an execution the candidate has to be what the proposal holds. -/
def confirm (p : ProposalState) (candidate : Message) : Except DispatchError Unit :=
  match p.action, p.id with
  | .approve, some id | .execute, some id =>
    match candidate.normalize.bind fun m => messagesMatch p.stored [m] with
    | .ok true => .ok ()
    | .ok false => .error (.proposalMismatch id)
    | .error e => .error (.incomparable e)
  | _, _ => .ok ()

def bodyFor (d : Dispatcher) (p : ProposalState) (candidate : Message) :
    Except DispatchError Json := do
  confirm p candidate
  return (← d.callFor p.action p.id candidate).toJson

def outcomeOf (d : Dispatcher) (p : ProposalState) (receipt : TxReceipt) :
    Except DispatchError DispatchOutcome :=
  if receipt.code ≠ 0 then .error (.txFailed receipt.hash receipt.code receipt.rawLog)
  else
    let events := receipt.events
    let id := if p.action = .create then (Relay.created? events).or p.id else p.id
    let named := (id.map fun id => ("proposalId", Json.ofNat id.toNat)).toList
    let extra :=
      if p.action = .execute then (d.afterExecute.bind (· events)).getD [] else []
    .ok (.submitted p.action receipt.hash id (Entries.ofList (named ++ extra)))

/-- Perform the step of a resolution for `signer`: one submission at most, none in a dry run. -/
def dispatch (d : Dispatcher) (r : Resolution) (signer : String) (candidate : Message) :
    Dialogue DispatchError DispatchOutcome :=
  match d.bodyFor r.proposal candidate with
  | .error e => .failed e
  | .ok body =>
    match d.mode, d.connected with
    | .dryRun, _ => .done (.encoded r.proposal.action r.proposal.id (encodeJson body))
    | .submit, false => .failed .missingSubmitter
    | .submit, true =>
      .submit [.call signer d.multisig body] fun
        | .error e => .failed (.submission e.message)
        | .ok receipt => Dialogue.ofExcept (d.outcomeOf r.proposal receipt)

end Dispatcher
end Countersign
