import Countersign.Proofs.AcceptedRun
import Countersign.Proofs.RunStep
import Mathlib

/-! What can go wrong once a run has resolved. The dispatch looks at the candidate and at the id once
more, and finds nothing that the resolution did not find, so all it can fail by is the reply to its
submission. -/

namespace Countersign

open Dialogue

namespace Dispatcher

theorem exists_callFor (d : Dispatcher) {action : NextAction} {candidate : Message}
    {m : StoredMessage} (hm : candidate.normalize = .ok m) (haction : action ≠ .none)
    (pid : UInt64) : ∃ call, d.callFor action (some pid) candidate = .ok call := by
  cases action with
  | create => exact ⟨.propose d.title d.title [m], by rw [callFor, hm]⟩
  | approve => exact ⟨.vote pid "yes", rfl⟩
  | execute => exact ⟨.execute pid, rfl⟩
  | none => exact absurd rfl haction

end Dispatcher

namespace Wallet

theorem exists_bodyFor (w : Wallet) (mode : DispatchMode) {prepared : Prepared} {signer : String}
    {id : Option UInt64} {es : List Exchange} {r : Resolution}
    (h : Runs (w.resolve id prepared.message signer) es (.done r))
    (haction : r.proposal.action ≠ .none) :
    ∃ body, (w.dispatcher mode prepared).bodyFor r.proposal prepared.message = .ok body := by
  obtain ⟨m, snapshot, hm, -, hstate, hnext, -⟩ := resolve_done h
  cases snapshot with
  | none =>
    have hcreate : r.proposal.action = .create := (Except.ok.inj hnext).symm
    rw [hstate, stateOf]
    refine ⟨(MultisigCall.propose prepared.id prepared.id [m]).toJson, ?_⟩
    simp only [Dispatcher.bodyFor, Dispatcher.confirm, ProposalState.absent, Dispatcher.callFor, hm]
    rfl
  | some s =>
    obtain ⟨-, hmatch⟩ := nextAction_some.1 hnext
    obtain ⟨call, hcall⟩ := (w.dispatcher mode prepared).exists_callFor hm haction s.id
    rw [hstate, stateOf]
    exact ⟨call.toJson, Dispatcher.bodyFor_ofSnapshot hm hmatch hcall⟩

theorem reread_failed {w : Wallet} {signer : String} {r : Resolution} {out : DispatchOutcome}
    {es : List Exchange} {e : RunError} (h : Runs (w.reread signer r out) es (.failed e)) :
    ∃ source, e = .resolve source := by
  unfold reread at h
  split at h
  · rcases h.of_part with ⟨latest, _, _, -, hlast, -⟩ | ⟨source, -, ho⟩ | ⟨-, ho⟩
    · cases hlast
    · cases ho
      exact ⟨source, rfl⟩
    · cases ho
  · cases h

/-- A dispatch error of a run is the refusal of its submission, or the failure of the transaction,
and tells of the reply in full. A dry run has none. -/
theorem dispatchError_of_reply {σ : Type} (node : Node σ) (state : σ) (w : Wallet)
    (mode : DispatchMode) (prepared : Prepared) (signer : String) (id : Option UInt64)
    {e : DispatchError}
    (h : ((w.run mode prepared signer id).play node state).outcome = .failed (.dispatch e)) :
    mode = .submit ∧ ∃ before messages reply,
      ((w.run mode prepared signer id).play node state).exchanges =
        before ++ [.submission messages reply] ∧
      ((∃ refusal, reply = .error refusal ∧ e = .submission refusal.message) ∨
        ∃ receipt, reply = .ok receipt ∧ receipt.code ≠ 0 ∧
          e = .txFailed receipt.hash receipt.code receipt.rawLog) := by
  have hrun := runs_play node (w.run mode prepared signer id) state
  rw [h] at hrun
  rcases run_parts hrun with
    ⟨_, -, ho⟩ | ⟨-, ho⟩ | ⟨_, -, -, ho⟩ | ⟨r, es₁, es₂, es₃, o, hes, hr, haction, hd, -, hend⟩
  · cases ho
  · cases ho
  · cases ho
  -- only the dispatch itself can have ended with the error, since the second look cannot
  have ho : es₃ = [] ∧ o = .failed e := by
    cases o with
    | done out => obtain ⟨_, hsource⟩ := reread_failed hend; cases hsource
    | failed e' => obtain ⟨hes₃, he⟩ := hend; cases he; exact ⟨hes₃, rfl⟩
    | stalled => cases hend.2
  obtain ⟨rfl, rfl⟩ := ho
  obtain ⟨body, hbody⟩ := w.exists_bodyFor mode hr haction
  cases mode with
  | dryRun =>
    rw [Dispatcher.dispatch_dryRun signer rfl hbody] at hd
    cases hd
  | submit =>
    rw [Dispatcher.dispatch_submit rfl rfl hbody] at hd
    cases hd with
    | @submit _ _ reply _ _ rest =>
      obtain ⟨rfl, hjudge⟩ := Runs.ofExcept_failed rest
      exact ⟨rfl, es₁, _, reply, by rw [hes, List.append_nil], Dispatcher.judge_error hjudge⟩

open Rehearsal in
theorem dispatchError_outOfGas :
    let failing := passed.prepareReceipts
      [.ok { hash := "AB12", logs := [], rawLog := "out of gas", code := 5 }]
    let p := (feedWallet.run .submit beginProposal "terra1alice" (some 1)).play node failing
    p.outcome = .failed (.dispatch (.txFailed "AB12" 5 "out of gas")) ∧
      DispatchMode.submit = .submit ∧ ∃ before messages reply,
        p.exchanges = before ++ [.submission messages reply] ∧
        ((∃ refusal, reply = .error refusal ∧
            .txFailed "AB12" 5 "out of gas" = DispatchError.submission refusal.message) ∨
          ∃ receipt, reply = .ok receipt ∧ receipt.code ≠ 0 ∧
            DispatchError.txFailed "AB12" 5 "out of gas" =
              .txFailed receipt.hash receipt.code receipt.rawLog) := by
  intro failing p
  have hfailed : p.outcome.failure? = some (.dispatch (.txFailed "AB12" 5 "out of gas")) := by
    decide +kernel
  exact ⟨Outcome.eq_failed hfailed, dispatchError_of_reply node failing feedWallet .submit
    beginProposal "terra1alice" (some 1) (Outcome.eq_failed hfailed)⟩

end Wallet
end Countersign
