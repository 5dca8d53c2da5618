import Countersign.Proofs.ChainAnswers
import Countersign.Proofs.Run
import Mathlib

/-! The one step that a run takes once it has resolved: nothing, a call encoded for others, or a call
submitted, whose reply is judged and followed by a second look. -/

namespace Countersign

open Dialogue

theorem MultisigCall.read?_toJson (call : MultisigCall) : read? call.toJson = some call := by
  cases call with
  | propose title description messages =>
    change (Record.list? StoredMessage.read? (.list (messages.map StoredMessage.toJson))).bind
      (fun messages => some (propose title description messages)) = _
    rw [Record.list?_map messages StoredMessage.read?_toJson, Option.bind_some]
  | vote id choice =>
    change (Record.word64? (Json.ofNat id.toNat)).bind (fun id => some (vote id choice)) = _
    rw [Record.word64?_ofNat, Option.bind_some]
  | execute id =>
    change (Record.word64? (Json.ofNat id.toNat)).bind (fun id => some (execute id)) = _
    rw [Record.word64?_ofNat, Option.bind_some]

theorem MultisigCall.toJson_injective : Function.Injective toJson :=
  Function.Injective.of_comp (f := read?) fun a b h => by
    simpa only [Function.comp_apply, read?_toJson, Option.some.injEq] using h

namespace Dispatcher

theorem confirm_ofSnapshot {s : Snapshot} {threshold : UInt64} {action : NextAction}
    {candidate : Message} {m : StoredMessage} (hm : candidate.normalize = .ok m)
    (hmatch : action = .approve ∨ action = .execute → messagesMatch s.messages [m] = .ok true) :
    confirm (.ofSnapshot s threshold action) candidate = .ok () := by
  cases action with
  | create => rfl
  | none => rfl
  | approve => simp only [confirm, ProposalState.ofSnapshot, hm, Except.bind, hmatch (.inl rfl)]
  | execute => simp only [confirm, ProposalState.ofSnapshot, hm, Except.bind, hmatch (.inr rfl)]

theorem bodyFor_ofSnapshot {d : Dispatcher} {s : Snapshot} {threshold : UInt64} {action : NextAction}
    {candidate : Message} {m : StoredMessage} {call : MultisigCall}
    (hm : candidate.normalize = .ok m)
    (hmatch : action = .approve ∨ action = .execute → messagesMatch s.messages [m] = .ok true)
    (hcall : d.callFor action (some s.id) candidate = .ok call) :
    d.bodyFor (.ofSnapshot s threshold action) candidate = .ok call.toJson :=
  bind_eq_ok.2 ⟨(), confirm_ofSnapshot hm hmatch, bind_eq_ok.2 ⟨call, hcall, rfl⟩⟩

def judge (d : Dispatcher) (p : ProposalState) : SubmitReply → Except DispatchError DispatchOutcome
  | .error e => .error (.submission e.message)
  | .ok receipt => d.outcomeOf p receipt

theorem judge_ok {d : Dispatcher} {p : ProposalState} {reply : SubmitReply} {out : DispatchOutcome}
    (h : d.judge p reply = .ok out) : ∃ action hash id data, out = .submitted action hash id data := by
  cases reply with
  | error e => cases h
  | ok receipt =>
    rw [judge, outcomeOf] at h
    split at h
    · cases h
    · exact ⟨_, _, _, _, (Except.ok.inj h).symm⟩

theorem judge_error {d : Dispatcher} {p : ProposalState} {reply : SubmitReply} {e : DispatchError}
    (h : d.judge p reply = .error e) :
    (∃ refusal, reply = .error refusal ∧ e = .submission refusal.message) ∨
      ∃ receipt, reply = .ok receipt ∧ receipt.code ≠ 0 ∧
        e = .txFailed receipt.hash receipt.code receipt.rawLog := by
  cases reply with
  | error refusal => cases h; exact .inl ⟨refusal, rfl, rfl⟩
  | ok receipt =>
    rw [judge, outcomeOf] at h
    split at h
    · next hcode => cases h; exact .inr ⟨receipt, rfl, hcode, rfl⟩
    · cases h

theorem dispatch_failed {d : Dispatcher} {r : Resolution} {candidate : Message} {e : DispatchError}
    (signer : String) (hbody : d.bodyFor r.proposal candidate = .error e) :
    d.dispatch r signer candidate = .failed e := by
  rw [dispatch, hbody]

theorem dispatch_dryRun {d : Dispatcher} {r : Resolution} {candidate : Message} {body : Json}
    (signer : String) (hmode : d.mode = .dryRun)
    (hbody : d.bodyFor r.proposal candidate = .ok body) :
    d.dispatch r signer candidate =
      .done (.encoded r.proposal.action r.proposal.id (encodeJson body)) := by
  rw [dispatch, hbody, hmode]

theorem dispatch_submit {d : Dispatcher} {r : Resolution} {signer : String} {candidate : Message}
    {body : Json} (hmode : d.mode = .submit) (hconnected : d.connected = true)
    (hbody : d.bodyFor r.proposal candidate = .ok body) :
    d.dispatch r signer candidate = .submit [.execute signer d.multisig body []] fun reply =>
      Dialogue.ofExcept (d.judge r.proposal reply) := by
  rw [dispatch, hbody, hmode, hconnected]
  refine congrArg (Dialogue.submit _) (funext fun reply => ?_)
  cases reply <;> rfl

end Dispatcher

namespace Wallet

variable {w : Wallet}

def perform (w : Wallet) (mode : DispatchMode) (prepared : Prepared) (signer : String)
    (r : Resolution) : Dialogue RunError RunReport :=
  if r.proposal.action = .none then pure { resolution := r }
  else
    ((w.dispatcher mode prepared).dispatch r signer prepared.message).mapError .dispatch >>=
      w.reread signer r

theorem play_run {σ : Type} (node : Node σ) (w : Wallet) (mode : DispatchMode)
    (prepared : Prepared) (signer : String) (id : Option UInt64) (s : σ) :
    (w.run mode prepared signer id).play node s =
      (((w.resolve id prepared.message signer).mapError .resolve).play node s).bind
        fun r s => (w.perform mode prepared signer r).play node s := by
  rw [run_eq]
  exact play_bind ..

theorem play_run_done {σ : Type} {node : Node σ} {w : Wallet} {prepared : Prepared}
    {signer : String} {id : Option UInt64} {s : σ} {r : Resolution}
    (h : ((w.resolve id prepared.message signer).play node s).outcome = .done r)
    (mode : DispatchMode) :
    let resolved := (w.resolve id prepared.message signer).play node s
    let performed := (w.perform mode prepared signer r).play node resolved.state
    (w.run mode prepared signer id).play node s =
      { performed with exchanges := resolved.exchanges ++ performed.exchanges } := by
  rw [play_run, play_mapError, h]
  rfl

theorem reread_done {signer : String} {r : Resolution} {out : DispatchOutcome}
    {es : List Exchange} {report : RunReport} (h : Runs (w.reread signer r out) es (.done report)) :
    report.outcome = some out := by
  unfold reread at h
  split at h
  · obtain ⟨latest, es₁, es₂, -, hlast, -⟩ := h.bind_done
    obtain ⟨-, rfl⟩ := hlast.pure_done
    rfl
  · obtain ⟨-, rfl⟩ := h.pure_done
    rfl

def settle (w : Wallet) (prepared : Prepared) (signer : String) (r : Resolution)
    (reply : SubmitReply) : Dialogue RunError RunReport :=
  (ofExcept ((w.dispatcher .submit prepared).judge r.proposal reply)).mapError .dispatch >>=
    w.reread signer r

theorem asksOnly_settle (w : Wallet) (prepared : Prepared) (signer : String) (r : Resolution)
    (reply : SubmitReply) : (w.settle prepared signer r reply).AsksOnly :=
  (asksOnly_ofExcept _).mapError.bind (w.asksOnly_reread signer r)

theorem settle_done {prepared : Prepared} {signer : String} {r : Resolution} {reply : SubmitReply}
    {es : List Exchange} {report : RunReport}
    (h : Runs (w.settle prepared signer r reply) es (.done report)) :
    ∃ action hash id data, report.outcome = some (.submitted action hash id data) := by
  obtain ⟨out, es₁, es₂, hout, hreread, -⟩ := h.bind_done
  obtain ⟨action, hash, id, data, rfl⟩ :=
    Dispatcher.judge_ok (Runs.ofExcept_done hout.mapError_done).2
  exact ⟨action, hash, id, data, reread_done hreread⟩

theorem perform_submit {prepared : Prepared} {signer : String} {r : Resolution} {body : Json}
    (haction : r.proposal.action ≠ .none)
    (hbody : (w.dispatcher .submit prepared).bodyFor r.proposal prepared.message = .ok body) :
    w.perform .submit prepared signer r =
      .submit [.execute signer w.multisig body []] (w.settle prepared signer r) := by
  rw [perform, if_neg haction, Dispatcher.dispatch_submit rfl rfl hbody]
  rfl

/-- A run that resolved has nothing more to do, fails, encodes the call of its step, or submits that
call and then only asks. -/
theorem perform_cases (w : Wallet) (mode : DispatchMode) (prepared : Prepared) (signer : String)
    (r : Resolution) :
    w.perform mode prepared signer r = .done { resolution := r } ∨
    (∃ e, w.perform mode prepared signer r = .failed e) ∨
    ∃ call, (w.dispatcher mode prepared).callFor r.proposal.action r.proposal.id
        prepared.message = .ok call ∧
      (w.perform mode prepared signer r = .done {
          resolution := r
          outcome := some (.encoded r.proposal.action r.proposal.id (encodeJson call.toJson)) } ∨
        w.perform mode prepared signer r =
          .submit [.execute signer w.multisig call.toJson []] (w.settle prepared signer r)) := by
  by_cases hnone : r.proposal.action = .none
  · exact .inl (if_pos hnone)
  cases hbody : (w.dispatcher mode prepared).bodyFor r.proposal prepared.message with
  | error e =>
    refine .inr (.inl ⟨.dispatch e, ?_⟩)
    rw [perform, if_neg hnone, Dispatcher.dispatch, hbody]
    rfl
  | ok body =>
    obtain ⟨call, hcall, rfl⟩ := Dispatcher.bodyFor_ok hbody
    refine .inr (.inr ⟨call, hcall, ?_⟩)
    cases mode with
    | dryRun =>
      refine .inl ?_
      rw [perform, if_neg hnone, Dispatcher.dispatch, hbody]
      rfl
    | submit => exact .inr (perform_submit hnone hbody)

theorem perform_submission {mode : DispatchMode} {prepared : Prepared} {signer : String}
    {r : Resolution} {es : List Exchange} {o : Outcome RunError RunReport}
    (h : Runs (w.perform mode prepared signer r) es o) {messages : List Message}
    {reply : SubmitReply} (hmem : .submission messages reply ∈ es) :
    ∃ call, (w.dispatcher mode prepared).callFor r.proposal.action r.proposal.id
        prepared.message = .ok call ∧
      messages = [.execute signer w.multisig call.toJson []] := by
  rcases w.perform_cases mode prepared signer r with hd | ⟨e, hd⟩ | ⟨call, hcall, hd | hd⟩
  · rw [hd] at h; cases h; cases hmem
  · rw [hd] at h; cases h; cases hmem
  · rw [hd] at h; cases h; cases hmem
  · rw [hd] at h
    cases h with
    | submit hrest =>
      rcases List.mem_cons.1 hmem with hhead | hmem
      · cases hhead
        exact ⟨call, hcall, rfl⟩
      · cases (w.asksOnly_settle prepared signer r _).no_submission hrest _ hmem

theorem perform_encoded {mode : DispatchMode} {prepared : Prepared} {signer : String}
    {r : Resolution} {es : List Exchange} {report : RunReport}
    (h : Runs (w.perform mode prepared signer r) es (.done report)) {action : NextAction}
    {id : Option UInt64} {message : String}
    (hout : report.outcome = some (.encoded action id message)) :
    action = r.proposal.action ∧ id = r.proposal.id := by
  rcases w.perform_cases mode prepared signer r with hd | ⟨e, hd⟩ | ⟨call, hcall, hd | hd⟩
  · rw [hd] at h; cases h; cases hout
  · rw [hd] at h; cases h
  · rw [hd] at h; cases h; cases hout; exact ⟨rfl, rfl⟩
  · rw [hd] at h
    cases h with
    | submit hrest =>
      obtain ⟨_, _, _, _, hsubmitted⟩ := settle_done hrest
      rw [hsubmitted] at hout
      cases hout

end Wallet
end Countersign
