import Countersign.Proposal.Decision
import Mathlib

/-! The decision table by its answers: when a signer approves, when anyone executes, and that
neither happens unless the proposal holds the candidate. -/

namespace Countersign

variable {s : Snapshot} {threshold : UInt64} {approved : Bool} {candidate : StoredMessage}

namespace Snapshot

def IsVoting (status : ProposalStatus) : Prop :=
  status = .pending ∨ status = .open

theorem action_eq_approve :
    s.action threshold approved = .approve ↔
      IsVoting s.status ∧ s.approvers.length < threshold.toNat ∧ approved = false := by
  unfold action IsVoting
  by_cases hcount : threshold.toNat ≤ s.approvers.length
  · cases s.status <;> simp [hcount]
  · cases s.status <;> cases approved <;> simp [hcount] <;> omega

theorem action_eq_execute :
    s.action threshold approved = .execute ↔
      s.status = .passed ∨ IsVoting s.status ∧ threshold.toNat ≤ s.approvers.length := by
  unfold action IsVoting
  by_cases hcount : threshold.toNat ≤ s.approvers.length
  · cases s.status <;> simp [hcount]
  · cases s.status <;> cases approved <;> simp [hcount]

theorem action_ne_create : s.action threshold approved ≠ .create := by
  unfold action
  cases s.status <;> split_ifs <;> simp

end Snapshot

theorem nextAction.confirm_eq_ok {action decided : NextAction} :
    nextAction.confirm candidate s decided = .ok action ↔
      decided = action ∧ messagesMatch s.messages [candidate] = .ok true := by
  unfold nextAction.confirm
  split
  · next h => simp [h]
  · next h => simp [h]
  · next h => simp [h]

/-- The table decides by the snapshot alone and then, before an approval or an execution, confirms
that the messages are the candidate. -/
theorem nextAction_some {action : NextAction} :
    nextAction (some s) threshold candidate approved = .ok action ↔
      s.action threshold approved = action ∧
        (action = .approve ∨ action = .execute →
          messagesMatch s.messages [candidate] = .ok true) := by
  rw [nextAction]
  cases hs : s.action threshold approved with
  | create => exact absurd hs Snapshot.action_ne_create
  | approve =>
    rw [nextAction.confirm_eq_ok]
    exact and_congr_right fun h => by simp [← h]
  | execute =>
    rw [nextAction.confirm_eq_ok]
    exact and_congr_right fun h => by simp [← h]
  | none =>
    rw [Except.ok.injEq]
    exact (and_iff_left_of_imp fun h => by simp [← h]).symm

end Countersign
