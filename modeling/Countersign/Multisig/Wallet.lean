import Countersign.Multisig.Wire
import Countersign.Node.Listing
import Countersign.Proposal.Decision
import Countersign.Proposal.Resolution
import Countersign.Proposal.Threshold

/-!
Reading a multisig: its threshold and owners, its proposals with their votes, and from these what a
signer does next. Nothing here submits a message.
-/

namespace Countersign

attribute [local instance (high)] instPowNat

structure Wallet where
  multisig : String
  group : String
  pageSize : UInt32 := 30
  /-- The most pages of one listing that are read before the dialogue is left stalled. -/
  patience : Nat := 2 ^ (32 : Nat)

namespace Wallet

def read? (v : Json) : Option Wallet := do
  let f ← Record.fields? ["multisig", "group", "proposal_list_limit"] v
  return {
    multisig := ← f.required? "multisig" Record.text?
    group := ← f.required? "group" Record.text?
    pageSize := ← f.withDefault? "proposal_list_limit" Record.word32? 30 }

def toJson (w : Wallet) : Json :=
  .ofEntries [
    ("multisig", .text w.multisig),
    ("group", .text w.group),
    ("proposal_list_limit", .ofNat w.pageSize.toNat)]

def fullPage (w : Wallet) : Nat :=
  max 1 w.pageSize.toNat

def members (w : Wallet) : Listing Member where
  contract := w.group
  question := Listing.pageQuery "list_members" [] w.pageSize
  readPage? := Member.readPage?
  key := Member.address
  fullPage := w.fullPage

def votes (w : Wallet) (id : UInt64) : Listing VoteRecord where
  contract := w.multisig
  question := Listing.pageQuery "list_votes" [("proposal_id", .ofNat id.toNat)] w.pageSize
  readPage? := VoteRecord.readPage?
  key := VoteRecord.voter
  fullPage := w.fullPage

def thresholdQuery : Json :=
  .ofEntries [("threshold", .object [])]

def proposalQuery (id : UInt64) : Json :=
  .ofEntries [("proposal", .ofEntries [("proposal_id", .ofNat id.toNat)])]

def recentQuery (w : Wallet) : Json :=
  .ofEntries [("reverse_proposals", .ofEntries [("limit", .ofNat w.pageSize.toNat)])]

def fetchMultisig (w : Wallet) : Dialogue ResolveError MultisigState := do
  let threshold ← (Dialogue.ask w.multisig thresholdQuery Threshold.read?).mapError (.query none)
  let members ← (w.members.all w.patience).mapError (.query none)
  let required ← match threshold.required with
    | .ok n => Dialogue.done n
    | .error kind => .failed (.unsupportedThreshold kind)
  return {
    address := w.multisig
    group := w.group
    owners := members.map Member.address
    threshold := required }

def fetchApprovers (w : Wallet) (id : UInt64) : Dialogue ResolveError Roster := do
  let votes ← ((w.votes id).all w.patience).mapError (.query (some id))
  return Roster.ofList ((votes.filter (·.vote == .yes)).map VoteRecord.voter)

def snapshot (w : Wallet) (p : ProposalRecord) : Dialogue ResolveError Snapshot := do
  let messages ← (Dialogue.ofExcept (p.messages.mapM StoredMessage.ofJson)).mapError .incomparable
  let approvers ← w.fetchApprovers p.id
  return { id := p.id, status := p.status, approvers, messages }

def fetchProposal (w : Wallet) (id : UInt64) : Dialogue ResolveError Snapshot := do
  let p ← (Dialogue.ask w.multisig (proposalQuery id) ProposalRecord.read?).mapError fun
    | .notFound _ => .proposalNotFound id
    | e => .query (some id) e
  w.snapshot p

def recentProposals (w : Wallet) : Dialogue ResolveError (List ProposalRecord) :=
  (Dialogue.ask w.multisig w.recentQuery ProposalRecord.readPage?).mapError (.query none)

/-- The first proposal that is actionable and holds the candidate and nothing else. One that holds a
message of another kind is passed over. -/
def selectOpen (candidate : StoredMessage) :
    List ProposalRecord → Except MessageError (Option ProposalRecord)
  | [] => .ok none
  | p :: rest =>
    if p.status.isActionable then
      match p.messages.mapM StoredMessage.ofJson with
      | .error _ => selectOpen candidate rest
      | .ok stored => do
        if ← messagesMatch stored [candidate] then return some p
        else selectOpen candidate rest
    else selectOpen candidate rest

/-- The newest actionable proposal, in the page that is read, whose messages are the candidate. -/
def findOpen (w : Wallet) (candidate : StoredMessage) :
    Dialogue ResolveError (Option Snapshot) := do
  let proposals ← w.recentProposals
  match ← (Dialogue.ofExcept (selectOpen candidate proposals)).mapError .incomparable with
  | none => return none
  | some p => return some (← w.snapshot p)

def stateOf (threshold : UInt64) (snapshot : Option Snapshot) (action : NextAction) :
    ProposalState :=
  match snapshot with
  | some s => .ofSnapshot s threshold action
  | none => .absent threshold

/-- What `signer` does next for `candidate`, about the proposal with this id or else about the newest
open one that holds the candidate. -/
def resolve (w : Wallet) (id : Option UInt64) (candidate : Message) (signer : String) :
    Dialogue ResolveError Resolution := do
  let normalized ← (Dialogue.ofExcept candidate.normalize).mapError .incomparable
  let multisig ← w.fetchMultisig
  let snapshot ← match id with
    | some id => some <$> w.fetchProposal id
    | none => w.findOpen normalized
  let approved := snapshot.any fun s => s.approvers.contains signer
  let action ← Dialogue.ofExcept (nextAction snapshot multisig.threshold normalized approved)
  return { multisig, proposal := stateOf multisig.threshold snapshot action }

/-- The state of a proposal without a candidate: the one with this id, or else the newest actionable
one. No messages are compared. -/
def inspect (w : Wallet) (id : Option UInt64) (signer : Option String) :
    Dialogue ResolveError Resolution := do
  let multisig ← w.fetchMultisig
  let snapshot ← match id with
    | some id => some <$> w.fetchProposal id
    | none => do
      match (← w.recentProposals).find? (·.status.isActionable) with
      | some p => some <$> w.snapshot p
      | none => pure none
  let action := match snapshot with
    | some s => s.action multisig.threshold (signer.any fun a => s.approvers.contains a)
    | none => .create
  return { multisig, proposal := stateOf multisig.threshold snapshot action }

end Wallet
end Countersign
