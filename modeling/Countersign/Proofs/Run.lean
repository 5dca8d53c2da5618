import Countersign.Multisig.Run
import Countersign.Proofs.Evidence

/-! A run taken apart: its resolution, its dispatch with one submission at most, and the second look
at the proposal that follows a submission. -/

namespace Countersign

open Dialogue

namespace Dispatcher

theorem callFor_ok {d : Dispatcher} {action : NextAction} {id : Option UInt64} {candidate : Message}
    {call : MultisigCall} (h : d.callFor action id candidate = .ok call) :
    (action = .create ∧ ∃ m, candidate.normalize = .ok m ∧ call = .propose d.title d.title [m]) ∨
      (action = .approve ∧ ∃ p, id = some p ∧ call = .vote p "yes") ∨
      (action = .execute ∧ ∃ p, id = some p ∧ call = .execute p) := by
  cases action with
  | create =>
    rw [callFor] at h
    cases hm : candidate.normalize with
    | ok m => rw [hm] at h; cases h; exact .inl ⟨rfl, m, rfl, rfl⟩
    | error e => rw [hm] at h; cases h
  | approve =>
    cases id with
    | some p => cases h; exact .inr (.inl ⟨rfl, p, rfl, rfl⟩)
    | none => cases h
  | execute =>
    cases id with
    | some p => cases h; exact .inr (.inr ⟨rfl, p, rfl, rfl⟩)
    | none => cases h
  | none => cases h

theorem bodyFor_ok {d : Dispatcher} {p : ProposalState} {candidate : Message} {body : Json}
    (h : d.bodyFor p candidate = .ok body) :
    ∃ call, d.callFor p.action p.id candidate = .ok call ∧ body = call.toJson := by
  rw [bodyFor] at h
  cases hconfirm : confirm p candidate with
  | error e => rw [hconfirm] at h; cases h
  | ok _ =>
    rw [hconfirm] at h
    cases hcall : d.callFor p.action p.id candidate with
    | error e => rw [hcall] at h; cases h
    | ok call => rw [hcall] at h; cases h; exact ⟨call, rfl, rfl⟩

theorem dispatch_runs {d : Dispatcher} {r : Resolution} {signer : String} {candidate : Message}
    {es : List Exchange} {o : Outcome DispatchError DispatchOutcome}
    (h : Runs (d.dispatch r signer candidate) es o) :
    es = [] ∨ d.mode = .submit ∧ ∃ call reply,
      d.callFor r.proposal.action r.proposal.id candidate = .ok call ∧
      es = [.submission [.execute signer d.multisig call.toJson []] reply] ∧
      o = match reply with
        | .error e => .failed (.submission e.message)
        | .ok receipt =>
          match d.outcomeOf r.proposal receipt with
          | .ok out => .done out
          | .error e => .failed e := by
  rw [dispatch] at h
  cases hbody : d.bodyFor r.proposal candidate with
  | error e => rw [hbody] at h; cases h; exact .inl rfl
  | ok body =>
    simp only [hbody] at h
    obtain ⟨call, hcall, rfl⟩ := bodyFor_ok hbody
    cases hmode : d.mode with
    | dryRun => simp only [hmode] at h; cases h; exact .inl rfl
    | submit =>
      cases hconnected : d.connected with
      | false => simp only [hmode, hconnected] at h; cases h; exact .inl rfl
      | true =>
        simp only [hmode, hconnected] at h
        refine .inr ⟨rfl, call, ?_⟩
        cases h with
        | @submit _ _ reply es o rest =>
          cases reply with
          | error e => cases rest; exact ⟨.error e, hcall, rfl, rfl⟩
          | ok receipt =>
            refine ⟨.ok receipt, hcall, ?_⟩
            dsimp only at rest ⊢
            cases hout : d.outcomeOf r.proposal receipt with
            | ok out => rw [hout] at rest; cases rest; exact ⟨rfl, rfl⟩
            | error e => rw [hout] at rest; cases rest; exact ⟨rfl, rfl⟩

end Dispatcher

namespace Wallet

def reread (w : Wallet) (signer : String) (resolution : Resolution) (outcome : DispatchOutcome) :
    Dialogue RunError RunReport :=
  match outcome with
  | .submitted _ _ (some id) _ => do
    let after ← (w.inspect (some id) (some signer)).mapError .resolve
    return { resolution, outcome := some outcome, after := some after }
  | _ => return { resolution, outcome := some outcome }

theorem run_eq (w : Wallet) (mode : DispatchMode) (prepared : Prepared) (signer : String)
    (id : Option UInt64) :
    w.run mode prepared signer id =
      (w.resolve id prepared.message signer).mapError .resolve >>= fun r =>
        if r.proposal.action = .none then pure { resolution := r }
        else
          ((w.dispatcher mode prepared).dispatch r signer prepared.message).mapError .dispatch >>=
            w.reread signer r := rfl

theorem asksOnly_reread (w : Wallet) (signer : String) (r : Resolution) (out : DispatchOutcome) :
    (w.reread signer r out).AsksOnly := by
  unfold reread
  split
  · exact (w.asksOnly_inspect _ _).mapError.bind fun _ => trivial
  · trivial

theorem run_parts {w : Wallet} {mode : DispatchMode} {prepared : Prepared} {signer : String}
    {id : Option UInt64} {es : List Exchange} {o : Outcome RunError RunReport}
    (h : Runs (w.run mode prepared signer id) es o) :
    (∃ e, Runs (w.resolve id prepared.message signer) es (.failed e) ∧
        o = .failed (.resolve e)) ∨
      (Runs (w.resolve id prepared.message signer) es .stalled ∧ o = .stalled) ∨
      (∃ r, Runs (w.resolve id prepared.message signer) es (.done r) ∧
        r.proposal.action = .none ∧ o = .done { resolution := r }) ∨
      ∃ r es₁ es₂ es₃ o', es = es₁ ++ (es₂ ++ es₃) ∧
        Runs (w.resolve id prepared.message signer) es₁ (.done r) ∧ r.proposal.action ≠ .none ∧
        Runs ((w.dispatcher mode prepared).dispatch r signer prepared.message) es₂ o' ∧
        (∀ e ∈ es₃, e.isSubmission = false) ∧
        match o' with
        | .done out => Runs (w.reread signer r out) es₃ o
        | .failed e => es₃ = [] ∧ o = .failed (.dispatch e)
        | .stalled => es₃ = [] ∧ o = .stalled := by
  rw [run_eq] at h
  rcases h.of_part with ⟨r, es₁, es₂, hr, hrest, rfl⟩ | hfailed | hstalled
  · split at hrest
    · next hnone =>
      cases hrest
      exact .inr (.inr (.inl ⟨r, by simpa using hr, hnone, rfl⟩))
    · next hsome =>
      refine .inr (.inr (.inr ?_))
      rcases hrest.of_part with ⟨out, es₃, es₄, hd, hlast, rfl⟩ | ⟨e, hd, rfl⟩ | ⟨hd, rfl⟩
      · exact ⟨r, es₁, es₃, es₄, _, rfl, hr, hsome, hd,
          (w.asksOnly_reread signer r out).no_submission hlast, hlast⟩
      · exact ⟨r, es₁, es₂, [], _, by simp, hr, hsome, hd, by simp, rfl, rfl⟩
      · exact ⟨r, es₁, es₂, [], _, by simp, hr, hsome, hd, by simp, rfl, rfl⟩
  · exact .inl hfailed
  · exact .inr (.inl hstalled)

end Wallet
end Countersign
