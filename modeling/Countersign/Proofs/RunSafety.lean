import Countersign.Proofs.Decision
import Countersign.Proofs.Evidence
import Countersign.Proofs.Run

/-! What a run may submit. Whatever the node answers, there is at most one submission, it is one
call of the multisig that carries no coins, and the answers before it warrant that call. -/

namespace Countersign

open Dialogue

namespace Wallet

/-- The answers tell of a proposal that holds the candidate, of the approvals that are required, and
of the voters that approved. -/
structure Counted (w : Wallet) (es : List Exchange) (candidate : StoredMessage)
    (p : ProposalRecord) (required : UInt64) (voters : Finset String) : Prop where
  told : w.ToldProposal es p
  holds : p.Holds candidate
  required : w.ToldRequired es required
  voters : ∀ voter, voter ∈ voters ↔ w.ToldYes es p.id voter

/-- The grounds on which a call of the multisig may be submitted for `signer`. -/
def Warrants (w : Wallet) (es : List Exchange) (id : Option UInt64) (prepared : Prepared)
    (signer : String) : MultisigCall → Prop
  | .propose title description messages =>
    title = prepared.id ∧ description = prepared.id ∧ id = none ∧
      ∃ m, prepared.message.normalize = .ok m ∧ messages = [m] ∧
        (∀ p, w.ToldProposal es p → ¬(p.status.isActionable ∧ p.Holds m)) ∧
        ∃ r, Runs (w.resolve id prepared.message signer) es (.done r) ∧ r.proposal.id = none
  | .vote pid choice =>
    choice = "yes" ∧ ∃ m p required voters, prepared.message.normalize = .ok m ∧ p.id = pid ∧
      w.Counted es m p required voters ∧ Snapshot.IsVoting p.status ∧
      voters.card < required.toNat ∧ signer ∉ voters
  | .execute pid =>
    ∃ m p required voters, prepared.message.normalize = .ok m ∧ p.id = pid ∧
      w.Counted es m p required voters ∧
      (p.status = .passed ∨ Snapshot.IsVoting p.status ∧ required.toNat ≤ voters.card)

theorem Supports.counted {w : Wallet} {es : List Exchange} {p : ProposalRecord} {s : Snapshot}
    {m : StoredMessage} {required : UInt64} (h : w.Supports es p s)
    (hmatch : messagesMatch s.messages [m] = .ok true) (hrequired : w.ToldRequired es required) :
    w.Counted es m p required s.approvers.toFinset ∧
      s.approvers.toFinset.card = s.approvers.length :=
  ⟨⟨h.told, ⟨_, h.stored, hmatch⟩, hrequired, fun voter => by rw [List.mem_toFinset, h.voters]⟩,
    List.toFinset_card_of_nodup h.nodup⟩

theorem warrants_of_resolve {w : Wallet} {mode : DispatchMode} {prepared : Prepared}
    {signer : String} {id : Option UInt64} {es : List Exchange} {r : Resolution}
    {call : MultisigCall} (h : Runs (w.resolve id prepared.message signer) es (.done r))
    (hcall : (w.dispatcher mode prepared).callFor r.proposal.action r.proposal.id
      prepared.message = .ok call) : w.Warrants es id prepared signer call := by
  obtain ⟨m, snapshot, hm, hrequired, hstate, hnext, hnone, hsome⟩ := resolve_done h
  cases snapshot with
  | none =>
    have haction : r.proposal.action = .create := (Except.ok.inj hnext).symm
    have hid : r.proposal.id = none := by rw [hstate]; rfl
    obtain ⟨hfree, hpassed⟩ := hnone rfl
    rcases Dispatcher.callFor_ok hcall with ⟨-, m', hm', rfl⟩ | ⟨ha, -⟩ | ⟨ha, -⟩
    · cases hm.symm.trans hm'
      exact ⟨rfl, rfl, hfree, m, hm, rfl, hpassed, r, h, hid⟩
    · rw [haction] at ha; cases ha
    · rw [haction] at ha; cases ha
  | some s =>
    obtain ⟨p, hp⟩ := hsome s rfl
    obtain ⟨haction, hmatch⟩ := nextAction_some.1 hnext
    have hid : r.proposal.id = some p.id := by rw [hstate, ← hp.id]; rfl
    rcases Dispatcher.callFor_ok hcall with ⟨ha, -⟩ | ⟨ha, pid, hpid, rfl⟩ | ⟨ha, pid, hpid, rfl⟩
    · rw [ha] at haction
      exact absurd haction Snapshot.action_ne_create
    · obtain ⟨hcounted, hcard⟩ := hp.counted (hmatch (.inl ha)) hrequired
      rw [ha, Snapshot.action_eq_approve] at haction
      obtain ⟨hvoting, hfew, hsigner⟩ := haction
      refine ⟨rfl, m, p, _, _, hm, Option.some.inj (hid.symm.trans hpid), hcounted,
        hp.status ▸ hvoting, hcard ▸ hfew, ?_⟩
      simpa using hsigner
    · obtain ⟨hcounted, hcard⟩ := hp.counted (hmatch (.inr ha)) hrequired
      rw [ha, Snapshot.action_eq_execute, hp.status] at haction
      refine ⟨m, p, _, _, hm, Option.some.inj (hid.symm.trans hpid), hcounted, ?_⟩
      rwa [hcard]

/-- A run submits nothing; or, in submit mode, it submits once, one call of the multisig by `signer`
without coins, and the answers before the submission warrant the call. -/
theorem submission_warranted {σ : Type} (node : Node σ) (state : σ) (w : Wallet)
    (mode : DispatchMode) (prepared : Prepared) (signer : String) (id : Option UInt64) :
    let es := ((w.run mode prepared signer id).play node state).exchanges
    (∀ e ∈ es, e.isSubmission = false) ∨
      mode = .submit ∧ ∃ before call reply after,
        es = before ++ .submission [.execute signer w.multisig call.toJson []] reply :: after ∧
        (∀ e ∈ before ++ after, e.isSubmission = false) ∧
        w.Warrants before id prepared signer call := by
  intro es
  obtain ⟨o, h⟩ : ∃ o, Runs (w.run mode prepared signer id) es o := ⟨_, runs_play node _ state⟩
  clear_value es
  have quiet : ∀ {es o}, Runs (w.resolve id prepared.message signer) es o →
      ∀ e ∈ es, e.isSubmission = false := (w.asksOnly_resolve _ _ _).no_submission
  rcases run_parts h with
    ⟨e, hr, -⟩ | ⟨hr, -⟩ | ⟨r, hr, -⟩ | ⟨r, es₁, es₂, es₃, o', rfl, hr, -, hd, hes₃, -⟩
  · exact .inl (quiet hr)
  · exact .inl (quiet hr)
  · exact .inl (quiet hr)
  · -- only the dispatch between the resolution and the second look can submit
    have around : ∀ e ∈ es₁ ++ es₃, e.isSubmission = false := by
      intro e he
      rcases List.mem_append.1 he with he | he
      · exact quiet hr e he
      · exact hes₃ e he
    rcases Dispatcher.dispatch_runs hd with rfl | ⟨hmode, call, reply, hcall, rfl, -⟩
    · exact .inl around
    · exact .inr ⟨hmode, es₁, call, reply, es₃, rfl, around, warrants_of_resolve hr hcall⟩

end Wallet
end Countersign
