import Countersign.Proofs.AcceptedRun
import Countersign.Proofs.Candidate
import Countersign.Proofs.ChainAnswers
import Mathlib

/-! Resolving a proposal by its id comes to what a direct look at the whole state of the chain gives:
all members, all yes votes, the step that follows from them, and a refusal exactly when that step would
act on other messages than the candidate. -/

namespace Countersign

open Dialogue

/-- The step that a signer has to take, from the status and the list of all who voted yes. -/
def ProposalRecord.due (p : ProposalRecord) (yes : List String) (required : UInt64)
    (signer : String) : NextAction :=
  if p.status = .passed ∨ (p.status = .pending ∨ p.status = .open) ∧ required.toNat ≤ yes.length then
    .execute
  else if (p.status = .pending ∨ p.status = .open) ∧ signer ∉ yes then .approve
  else .none

theorem Snapshot.action_eq_due {s : Snapshot} {p : ProposalRecord} (hstatus : s.status = p.status)
    (required : UInt64) (signer : String) :
    s.action required (s.approvers.contains signer) = p.due s.approvers required signer := by
  rw [ProposalRecord.due, ← hstatus]
  by_cases hcount : required.toNat ≤ s.approvers.length
  · cases hs : s.status <;> simp [action, hs, hcount]
  · by_cases hsigner : signer ∈ s.approvers
    · cases hs : s.status <;> simp [action, hs, hcount, hsigner]
    · cases hs : s.status <;> simp [action, hs, hcount, hsigner]

theorem nextAction_mismatch {s : Snapshot} {threshold : UInt64} {candidate : StoredMessage}
    {approved : Bool}
    (hacts : s.action threshold approved = .approve ∨ s.action threshold approved = .execute)
    (hmatch : messagesMatch s.messages [candidate] = .ok false) :
    nextAction (some s) threshold candidate approved = .error (.messageMismatch s.id) := by
  rw [nextAction]
  rcases hacts with hacts | hacts
  · rw [hacts]
    simp only [nextAction.confirm, hmatch]
  · rw [hacts]
    simp only [nextAction.confirm, hmatch]

namespace Wallet

variable {σ : Type} {node : Node σ} {P : σ → Prop} {w : Wallet}

theorem ends_resolve {id : Option UInt64} {candidate : Message} {m : StoredMessage}
    {multisig : MultisigState} {snapshot : Option Snapshot} (signer : String)
    (hm : candidate.normalize = .ok m) (hmultisig : w.fetchMultisig.Ends node P (.done multisig))
    (hlookup : (w.lookup id m).Ends node P (.done snapshot)) :
    (w.resolve id candidate signer).Ends node P
      (Outcome.ofExcept (conclude multisig snapshot m signer)) := by
  rw [resolve_eq, hm]
  exact ((ends_ofExcept_ok m).mapError _).bind (hmultisig.bind (hlookup.bind (ends_ofExcept _)))

/-- A resolution by id is a function of the whole state of the chain: of all members, of all votes on
the proposal, and of the proposal. -/
theorem resolve_by_id {L : Ledger} (hattests : w.Attests node P L) (hpage : 1 ≤ w.pageSize)
    (hdiffer : (L.members.map Member.address).Nodup) {required : UInt64}
    (hrequired : L.threshold.required = .ok required) {id : UInt64} {p : ProposalRecord}
    (hp : L.proposal? id = some p) (honce : ((L.votes id).map VoteRecord.voter).Nodup)
    {stored : List StoredMessage} (hstored : p.messages.mapM StoredMessage.ofJson = .ok stored)
    (hcanonical : ∀ m ∈ stored, m.Canonicalizes) {candidate : Message} {m : StoredMessage}
    (hm : candidate.normalize = .ok m) (signer : String)
    (hpatience : L.members.length < w.patience ∧ (L.votes id).length < w.patience)
    {s : σ} (hs : P s) :
    let yes := VoteRecord.approvers (L.votes id)
    let due := p.due yes required signer
    let refused := (due = .approve ∨ due = .execute) ∧ messagesMatch stored [m] ≠ .ok true
    let outcome := ((w.resolve (some id) candidate signer).play node s).outcome
    (refused → outcome = .failed (.messageMismatch id)) ∧
      (¬refused → outcome = .done {
        multisig := {
          address := w.multisig
          group := w.group
          owners := (L.members.map Member.address).insertionSort (· ≤ ·)
          threshold := required }
        proposal := {
          id := some id
          status := p.status
          approvers := yes
          threshold := required
          stored := stored
          action := due } }) := by
  intro yes due refused outcome
  have hsize : 0 < w.pageSize.toNat := UInt32.le_iff_toNat_le.1 hpage
  have hid : p.id = id := by simpa using List.find?_some hp
  have hmultisig := ends_fetchMultisig hattests.keeps hattests.threshold hrequired hattests.members
    hsize hdiffer hpatience.1
  have hsnapshot := ends_snapshot hattests.keeps (hid ▸ hattests.votes id) hsize honce
    hpatience.2 hstored
  rw [hid] at hsnapshot
  have hlookup : (w.lookup (some id) m).Ends node P
      (.done (some ⟨id, p.status, yes, stored⟩)) :=
    (ends_fetchProposal hattests.keeps (hattests.proposal id p hp) hsnapshot).bind (ends_done _)
  have hend := ends_resolve signer hm hmultisig hlookup
  have hdue : (Snapshot.mk id p.status yes stored).action required (yes.contains signer) = due :=
    Snapshot.action_eq_due rfl required signer
  obtain ⟨same, hsame⟩ := StoredMessage.exists_messagesMatch hcanonical
    (List.forall_mem_singleton.2 (StoredMessage.canonicalizes_of_normalize hm))
  constructor
  · rintro ⟨hacts, hother⟩
    have hdiffers : messagesMatch stored [m] = .ok false := by
      cases same with
      | true => exact absurd hsame hother
      | false => exact hsame
    have hnext := nextAction_mismatch (s := ⟨id, p.status, yes, stored⟩) (hdue.symm ▸ hacts) hdiffers
    rw [conclude, Option.any_some, hnext] at hend
    exact (hend s hs).2
  · intro hagreed
    have hnext : nextAction (some ⟨id, p.status, yes, stored⟩) required m (yes.contains signer) =
        .ok due :=
      nextAction_some.2 ⟨hdue, fun hacts => not_not.1 fun hother => hagreed ⟨hacts, hother⟩⟩
    rw [conclude, Option.any_some, hnext] at hend
    exact (hend s hs).2

end Wallet

def StoredMessage.beginProposal : StoredMessage :=
  .wasmExecute "terra1feed" "eyJiZWdpbl9wcm9wb3NhbCI6e319" []

def ProposalRecord.beginProposal (id : UInt64) (status : ProposalStatus) : ProposalRecord :=
  ⟨id, "t", "t", [StoredMessage.beginProposal.toJson], status⟩

def Ledger.divided : Ledger where
  threshold := .absoluteCount 3
  members := [⟨"terra1dave", 1⟩, ⟨"terra1bob", 1⟩, ⟨"terra1carol", 1⟩, ⟨"terra1alice", 1⟩]
  proposals := [.beginProposal 1 .open]
  votes id := if id = 1 then
    [⟨"terra1carol", .no, 1⟩, ⟨"terra1bob", .yes, 1⟩, ⟨"terra1alice", .yes, 1⟩] else []

theorem Ledger.records_divided : (Chain.ofLedger .divided).Records .divided :=
  Chain.records_of_member List.mem_cons_self fun _ hid => if_neg hid

theorem normalize_beginProposal :
    Rehearsal.beginProposal.message.normalize = .ok .beginProposal := by
  rfl

theorem Wallet.resolve_by_id_divided :
    let w : Wallet := { Rehearsal.feedWallet with pageSize := 2 }
    let candidate := Rehearsal.beginProposal.message
    ((w.resolve (some 1) candidate "terra1dave").play Chain.node (.ofLedger .divided)).outcome =
      .done {
        multisig := {
          address := "terra1multisig"
          group := "terra1group"
          owners := ["terra1alice", "terra1bob", "terra1carol", "terra1dave"]
          threshold := 3 }
        proposal := {
          id := some 1
          status := .open
          approvers := ["terra1alice", "terra1bob"]
          threshold := 3
          stored := [.beginProposal]
          action := .approve } } := by
  intro w candidate
  have hproposal : Ledger.divided.proposal? 1 = some (.beginProposal 1 .open) := rfl
  have hrequired : Ledger.divided.threshold.required = .ok 3 := rfl
  have hstored : [StoredMessage.beginProposal.toJson].mapM StoredMessage.ofJson =
    .ok [.beginProposal] := rfl
  have hcanonical := StoredMessage.canonicalizes_of_normalize normalize_beginProposal
  have hdue : (ProposalRecord.beginProposal 1 .open).due
      (VoteRecord.approvers (Ledger.divided.votes 1)) 3 "terra1dave" = .approve := by
    decide +kernel
  have howners : (Ledger.divided.members.map Member.address).insertionSort (· ≤ ·) =
      ["terra1alice", "terra1bob", "terra1carol", "terra1dave"] := by decide +kernel
  have hyes : VoteRecord.approvers (Ledger.divided.votes 1) = ["terra1alice", "terra1bob"] := by
    decide +kernel
  have h := (Wallet.resolve_by_id (Chain.reports Ledger.records_divided w).toAttests (by decide) (by decide)
    hrequired hproposal (by decide) hstored (List.forall_mem_singleton.2 hcanonical)
    normalize_beginProposal "terra1dave" (by decide) rfl).2
      fun h => h.2 (StoredMessage.messagesMatch_self hcanonical)
  rw [howners, hdue, hyes] at h
  exact h

end Countersign
