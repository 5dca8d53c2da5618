import Countersign.Proofs.ReferenceDecision
import Mathlib

/-! Inspecting a proposal: its id, its status, everyone who voted yes and the step that follows from
them. Nothing is compared, and still there is no report of a proposal that holds a message of another
kind than those that can be compared. -/

namespace Countersign

open Dialogue

def ProposalRecord.Legible (p : ProposalRecord) : Prop :=
  ∀ v ∈ p.messages, (StoredMessage.read? v).isSome

theorem StoredMessage.mapM_ofJson_cases (vs : List Json) :
    (∃ stored, vs.mapM ofJson = .ok stored ∧ ∀ v ∈ vs, (read? v).isSome) ∨
      ∃ v ∈ vs, read? v = none ∧ vs.mapM ofJson = .error (.unsupported (summary v)) := by
  induction vs with
  | nil => exact .inl ⟨[], rfl, by simp⟩
  | cons v vs ih =>
    rw [List.mapM_cons]
    cases hv : read? v with
    | none => exact .inr ⟨v, List.mem_cons_self, hv, by rw [ofJson, hv]; rfl⟩
    | some m =>
      have hm : ofJson v = .ok m := by rw [ofJson, hv]
      rcases ih with ⟨stored, hvs, hall⟩ | ⟨u, hu, hread, hvs⟩
      · exact .inl ⟨m :: stored, by rw [hm, hvs]; rfl, List.forall_mem_cons.2 ⟨by simp [hv], hall⟩⟩
      · exact .inr ⟨u, List.mem_cons_of_mem _ hu, hread, by rw [hm, hvs]; rfl⟩

namespace Wallet

variable {σ : Type} {node : Node σ} {P : σ → Prop} {w : Wallet} {L : Ledger}

/-- The proposal that an inspection is about: the one with the id, or the newest actionable one of
those on the page that is read. -/
def subject? (w : Wallet) (L : Ledger) : Option UInt64 → Option ProposalRecord
  | some id => L.proposal? id
  | none => (L.proposals.reverse.take w.pageSize.toNat).find? (·.status.isActionable)

def survey (w : Wallet) : Option UInt64 → Dialogue ResolveError (Option Snapshot)
  | some id => some <$> w.fetchProposal id
  | none => do
    match (← w.recentProposals).find? (·.status.isActionable) with
    | some p => some <$> w.snapshot p
    | none => pure none

def advise (multisig : MultisigState) (signer : Option String) (snapshot : Option Snapshot) :
    Resolution :=
  let action := match snapshot with
    | some s => s.action multisig.threshold (signer.any fun a => s.approvers.contains a)
    | none => .create
  { multisig, proposal := stateOf multisig.threshold snapshot action }

theorem inspect_eq (w : Wallet) (id : Option UInt64) (signer : Option String) :
    w.inspect id signer =
      w.fetchMultisig >>= fun multisig => advise multisig signer <$> w.survey id := by
  cases id with
  | some id => rfl
  | none =>
    refine congrArg (w.fetchMultisig >>= ·) (funext fun multisig => ?_)
    rw [survey, map_bind]
    refine congrArg (w.recentProposals >>= ·) (funext fun page => ?_)
    cases page.find? (·.status.isActionable) <;> rfl

theorem ends_survey (hreports : w.Reports node P L) {id : Option UInt64} {p : ProposalRecord}
    (hp : w.subject? L id = some p) {o : Outcome ResolveError Snapshot}
    (hsnapshot : (w.snapshot p).Ends node P o) : (w.survey id).Ends node P (o.map some) := by
  cases id with
  | some id => exact (ends_fetchProposal hreports.keeps (hreports.proposal id p hp) hsnapshot).map some
  | none =>
    refine ((ends_ask hreports.keeps hreports.recent).mapError _).bind ?_
    rw [show (L.proposals.reverse.take w.pageSize.toNat).find? _ = some p from hp]
    exact hsnapshot.map some

theorem ends_inspect {id : Option UInt64} {multisig : MultisigState}
    {o : Outcome ResolveError (Option Snapshot)}
    (hmultisig : w.fetchMultisig.Ends node P (.done multisig))
    (hsurvey : (w.survey id).Ends node P o) (signer : Option String) :
    (w.inspect id signer).Ends node P (o.map (advise multisig signer)) := by
  rw [inspect_eq]
  exact hmultisig.bind (hsurvey.map _)

/-! ### Reading without knowing the entries apart -/

theorem exists_fetchMultisig (hattests : w.Attests node P L) {required : UInt64}
    (hrequired : L.threshold.required = .ok required) (hpatience : L.members.length < w.patience) :
    ∃ owners, w.fetchMultisig.Ends node P (.done ⟨w.multisig, w.group, owners, required⟩) := by
  obtain ⟨members, hmembers⟩ := Listing.exists_ends_all hattests.keeps hattests.members hpatience
  exact ⟨_, ends_fetchMultisig_listed hattests.keeps hattests.threshold hrequired hmembers⟩

theorem exists_fetchApprovers (hattests : w.Attests node P L) {id : UInt64}
    (hpatience : (L.votes id).length < w.patience) :
    ∃ approvers, (w.fetchApprovers id).Ends node P (.done approvers) := by
  obtain ⟨votes, hvotes⟩ := Listing.exists_ends_all hattests.keeps (hattests.votes id) hpatience
  exact ⟨_, (hvotes.mapError _).bind (ends_done _)⟩

theorem fetchApprovers_all (hattests : w.Attests node P L) {id : UInt64}
    (hpatience : (L.votes id).length < w.patience) (hpage : 1 ≤ w.pageSize)
    (honce : ((L.votes id).map VoteRecord.voter).Nodup) {approvers : Roster}
    (h : (w.fetchApprovers id).Ends node P (.done approvers)) {s : σ} (hs : P s) :
    approvers = VoteRecord.approvers (L.votes id) := by
  have hall := ends_fetchApprovers hattests.keeps (hattests.votes id)
    (UInt32.le_iff_toNat_le.1 hpage) honce
  rw [if_pos (lt_of_le_of_lt (Nat.div_le_self _ _) hpatience)] at hall
  exact Outcome.done.inj (h.unique hall hs)

/-! ### The inspection as a whole -/

/-- The resolution tells of the proposal: of all its approvals, when votes come in pages and each
member has one, and of the step that follows from them. -/
structure Tells (w : Wallet) (L : Ledger) (p : ProposalRecord) (required : UInt64)
    (signer : Option String) (r : Resolution) : Prop where
  id : r.proposal.id = some p.id
  status : r.proposal.status = p.status
  threshold : r.proposal.threshold = required
  approvers : 1 ≤ w.pageSize → ((L.votes p.id).map VoteRecord.voter).Nodup →
    r.proposal.approvers = VoteRecord.approvers (L.votes p.id)
  action : r.proposal.action =
    (Snapshot.mk p.id p.status r.proposal.approvers r.proposal.stored).action required
      (signer.any fun a => r.proposal.approvers.contains a)

/-- With an id or without one, and whoever asks: the inspection of a proposal succeeds, and tells of
it, if all its messages are legible; and otherwise it fails because one is not. -/
theorem inspect_iff_legible (hreports : w.Reports node P L) {required : UInt64}
    (hrequired : L.threshold.required = .ok required) {id : Option UInt64} {p : ProposalRecord}
    (hp : w.subject? L id = some p) (signer : Option String)
    (hpatience : L.members.length < w.patience ∧ (L.votes p.id).length < w.patience)
    {s : σ} (hs : P s) :
    let outcome := ((w.inspect id signer).play node s).outcome
    (p.Legible → ∃ r, outcome = .done r ∧ w.Tells L p required signer r) ∧
      (¬p.Legible → ∃ v ∈ p.messages, StoredMessage.read? v = none ∧
        outcome = .failed (.incomparable (.unsupported (StoredMessage.summary v)))) := by
  intro outcome
  obtain ⟨owners, hmultisig⟩ := exists_fetchMultisig hreports.toAttests hrequired hpatience.1
  rcases StoredMessage.mapM_ofJson_cases p.messages with
    ⟨stored, hstored, hlegible⟩ | ⟨v, hv, hread, hfails⟩
  · obtain ⟨approvers, happrovers⟩ := exists_fetchApprovers hreports.toAttests hpatience.2
    have hsnapshot : (w.snapshot p).Ends node P (.done ⟨p.id, p.status, approvers, stored⟩) := by
      rw [snapshot, hstored]
      exact ((ends_ofExcept_ok stored).mapError _).bind (happrovers.bind (ends_done _))
    have hend := ends_inspect hmultisig (ends_survey hreports hp hsnapshot) signer
    refine ⟨fun _ => ⟨_, (hend s hs).2, ?_⟩, fun hnot => absurd hlegible hnot⟩
    exact {
      id := rfl
      status := rfl
      threshold := rfl
      approvers := fun hpage honce =>
        fetchApprovers_all hreports.toAttests hpatience.2 hpage honce happrovers hs
      action := rfl }
  · have hsnapshot : (w.snapshot p).Ends node P
        (.failed (.incomparable (.unsupported (StoredMessage.summary v)))) := by
      rw [snapshot, hfails]
      exact ((ends_ofExcept _).mapError _).bind_failed
    have hend := ends_inspect hmultisig (ends_survey hreports hp hsnapshot) signer
    refine ⟨fun hlegible => ?_, fun _ => ⟨v, hv, hread, (hend s hs).2⟩⟩
    simpa [hread] using hlegible v hv

open Rehearsal in
theorem inspect_divided :
    let w : Wallet := { feedWallet with pageSize := 2 }
    ∃ r, ((w.inspect none (some "terra1dave")).play Chain.node (.ofLedger .divided)).outcome =
        .done r ∧ w.Tells .divided (.beginProposal 1 .open) 3 (some "terra1dave") r ∧
      r.proposal.approvers = ["terra1alice", "terra1bob"] ∧ r.proposal.action = .approve := by
  intro w
  have hlegible : (ProposalRecord.beginProposal 1 .open).Legible :=
    List.forall_mem_singleton.2 rfl
  have hrequired : Ledger.divided.threshold.required = .ok 3 := rfl
  have hnewest : w.subject? .divided none = some (.beginProposal 1 .open) := rfl
  obtain ⟨r, hr, htells⟩ := (inspect_iff_legible (Chain.reports Ledger.records_divided w)
    hrequired hnewest (some "terra1dave") (by decide) rfl).1 hlegible
  have happrovers : r.proposal.approvers = ["terra1alice", "terra1bob"] :=
    (htells.approvers (by decide) (by decide)).trans (by decide +kernel)
  refine ⟨r, hr, htells, happrovers, ?_⟩
  rw [htells.action, happrovers]
  rfl

end Wallet

def ProposalRecord.delegation : ProposalRecord :=
  ⟨1, "t", "t", [.ofEntries [("staking", .ofEntries [("delegate", .object [])])]], .open⟩

def Ledger.delegating : Ledger where
  threshold := .absoluteCount 1
  members := [⟨"terra1alice", 1⟩]
  proposals := [.delegation]
  votes _ := []

open Rehearsal in
/-- The proposal is there, and every query about it is answered; it cannot be inspected. -/
theorem Wallet.inspect_delegation :
    let chain := Chain.ofLedger .delegating
    let failure := ResolveError.incomparable (.unsupported "staking")
    feedWallet.Reports Chain.node (· = chain) .delegating ∧
      Ledger.delegating.threshold.required = .ok 1 ∧
      feedWallet.subject? .delegating (some 1) = some .delegation ∧
      feedWallet.subject? .delegating none = some .delegation ∧
      ((feedWallet.inspect (some 1) none).play Chain.node chain).outcome = .failed failure ∧
      ((feedWallet.inspect none none).play Chain.node chain).outcome = .failed failure := by
  intro chain failure
  have hreports : feedWallet.Reports Chain.node (· = chain) .delegating :=
    Chain.reports (Chain.records_ofLedger fun _ _ => rfl) feedWallet
  have hbyId : ((feedWallet.inspect (some 1) none).play Chain.node chain).outcome.failure? =
    some failure := by decide +kernel
  have hnewest : ((feedWallet.inspect none none).play Chain.node chain).outcome.failure? =
    some failure := by decide +kernel
  exact ⟨hreports, rfl, rfl, rfl, Outcome.eq_failed hbyId, Outcome.eq_failed hnewest⟩

end Countersign
