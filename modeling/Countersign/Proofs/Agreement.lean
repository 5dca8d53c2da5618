import Countersign.Proofs.Inspection
import Mathlib

/-! A resolution by id is an inspection of the proposal and then, when there is something to approve or
execute, a comparison of the messages. So against a node that answers equal queries equally both ask the
same, and only that comparison can set them apart. -/

namespace Countersign

namespace Resolution

def compared (r : Resolution) (id : UInt64) (candidate : StoredMessage) :
    Except ResolveError Resolution :=
  match messagesMatch r.proposal.stored [candidate] with
  | .ok true => .ok r
  | .ok false => .error (.messageMismatch id)
  | .error e => .error (.incomparable e)

def confirmed (r : Resolution) (candidate : StoredMessage) : Except ResolveError Resolution :=
  match r.proposal.action, r.proposal.id with
  | .approve, some id | .execute, some id => r.compared id candidate
  | _, _ => .ok r

theorem compared_cases (r : Resolution) (id : UInt64) (candidate : StoredMessage) :
    r.compared id candidate = .ok r ∨ ∃ e, r.compared id candidate = .error e ∧
      (e = .messageMismatch id ∨ ∃ source, e = .incomparable source) := by
  rw [compared]
  split
  · exact .inl rfl
  · exact .inr ⟨_, rfl, .inl rfl⟩
  · exact .inr ⟨_, rfl, .inr ⟨_, rfl⟩⟩

theorem confirmed_cases (r : Resolution) (candidate : StoredMessage) :
    r.confirmed candidate = .ok r ∨
      (r.proposal.action = .approve ∨ r.proposal.action = .execute) ∧
        ∃ e, r.confirmed candidate = .error e ∧
          ((∃ id, r.proposal.id = some id ∧ e = .messageMismatch id) ∨
            ∃ source, e = .incomparable source) := by
  rw [confirmed]
  split
  · next id haction hid =>
    refine (r.compared_cases id candidate).imp_right fun ⟨e, he, hcause⟩ => ?_
    exact ⟨.inl haction, e, he, hcause.imp_left fun h => ⟨id, hid, h⟩⟩
  · next id haction hid =>
    refine (r.compared_cases id candidate).imp_right fun ⟨e, he, hcause⟩ => ?_
    exact ⟨.inr haction, e, he, hcause.imp_left fun h => ⟨id, hid, h⟩⟩
  · exact .inl rfl

end Resolution

/-- Queries leave the states in `P` within `P`, and in all of these equal queries are answered
equally. -/
structure Node.Steady {σ : Type} (node : Node σ) (P : σ → Prop) : Prop where
  keeps : node.Keeps P
  equal : ∀ s t contract question, P s → P t →
    (node.answer s contract question).1 = (node.answer t contract question).1

namespace Dialogue

variable {σ ε α : Type} {node : Node σ} {P : σ → Prop}

/-- What only asks comes to the same from all states of a steady node. -/
theorem AsksOnly.play_eq {d : Dialogue ε α} (hd : d.AsksOnly) (hsteady : node.Steady P) {s t : σ}
    (hs : P s) (ht : P t) :
    (d.play node s).outcome = (d.play node t).outcome ∧
      (d.play node s).exchanges = (d.play node t).exchanges := by
  induction d generalizing s t with
  | done a => exact ⟨rfl, rfl⟩
  | failed e => exact ⟨rfl, rfl⟩
  | stalled => exact ⟨rfl, rfl⟩
  | query contract question next ih =>
    have hequal := hsteady.equal s t contract question hs ht
    obtain ⟨houtcome, hexchanges⟩ := ih _ (hd _) (hsteady.keeps s contract question hs)
      (hsteady.keeps t contract question ht)
    simp only [play, ← hequal]
    exact ⟨houtcome, congrArg _ hexchanges⟩
  | submit messages next ih => exact hd.elim

end Dialogue

namespace Wallet

open Dialogue

variable {σ : Type} {node : Node σ} {P : σ → Prop} {w : Wallet}

theorem conclude_eq_confirmed (multisig : MultisigState) (s : Snapshot) (m : StoredMessage)
    (signer : String) :
    conclude multisig (some s) m signer =
      (advise multisig (some signer) (some s)).confirmed m := by
  have hdecided : ∀ action,
      let r := Resolution.mk multisig (stateOf multisig.threshold (some s) action)
      (nextAction.confirm m s action).map
        (fun action => Resolution.mk multisig (stateOf multisig.threshold (some s) action)) =
      r.compared s.id m := by
    intro action r
    have hstored : r.proposal.stored = s.messages := rfl
    rw [nextAction.confirm, Resolution.compared, hstored]
    rcases messagesMatch s.messages [m] with e | (_ | _) <;> rfl
  rw [conclude, advise, nextAction, Option.any_some, Option.any_some]
  cases s.action multisig.threshold (s.approvers.contains signer) with
  | create => rfl
  | none => rfl
  | approve => exact hdecided .approve
  | execute => exact hdecided .execute

theorem resolve_eq_inspect {candidate : Message} {m : StoredMessage}
    (hm : candidate.normalize = .ok m) (id : UInt64) (signer : String) :
    w.resolve (some id) candidate signer =
      w.inspect (some id) (some signer) >>= fun r => Dialogue.ofExcept (r.confirmed m) := by
  rw [resolve_eq, hm, inspect_eq, bind_assoc]
  refine congrArg (w.fetchMultisig >>= ·) (funext fun multisig => ?_)
  rw [lookup, survey]
  simp only [bind_map_left, conclude_eq_confirmed]

/-- A resolution and an inspection of the same proposal ask the same queries; where the inspection fails,
the resolution fails alike; and where it succeeds, the resolution finds the same, unless there is
something to approve or execute and the messages are not those of the candidate. -/
theorem inspect_resolve_agree (hsteady : node.Steady P) {s t : σ} (hs : P s) (ht : P t)
    {candidate : Message} {m : StoredMessage} (hm : candidate.normalize = .ok m) (id : UInt64)
    (signer : String) :
    let inspected := (w.inspect (some id) (some signer)).play node s
    let resolved := (w.resolve (some id) candidate signer).play node t
    resolved.exchanges = inspected.exchanges ∧
      (∀ e, inspected.outcome = .failed e → resolved.outcome = .failed e) ∧
      (inspected.outcome = .stalled → resolved.outcome = .stalled) ∧
      ∀ r, inspected.outcome = .done r → resolved.outcome = .done r ∨
        (r.proposal.action = .approve ∨ r.proposal.action = .execute) ∧
          ∃ e, resolved.outcome = .failed e ∧
            ((∃ id, r.proposal.id = some id ∧ e = .messageMismatch id) ∨
              ∃ source, e = .incomparable source) := by
  intro inspected resolved
  obtain ⟨houtcome, hexchanges⟩ := (w.asksOnly_inspect (some id) (some signer)).play_eq hsteady hs ht
  have hresolved : resolved = ((w.inspect (some id) (some signer)).play node t).bind
      fun r s => (Dialogue.ofExcept (r.confirmed m)).play node s := by
    rw [← play_bind, ← resolve_eq_inspect hm]
  rw [hresolved, Play.bind, houtcome, hexchanges]
  cases ((w.inspect (some id) (some signer)).play node t).outcome with
  | failed e =>
    refine ⟨rfl, fun _ h => h, fun h => ?_, fun r h => ?_⟩ <;> cases h
  | stalled =>
    refine ⟨rfl, fun e h => ?_, fun _ => rfl, fun r h => ?_⟩ <;> cases h
  | done r =>
    rcases r.confirmed_cases m with hok | ⟨hacts, e, herror, hcause⟩
    · simp only [hok, Dialogue.ofExcept, play, List.append_nil]
      refine ⟨trivial, fun e h => ?_, fun h => ?_, fun r' h => .inl h⟩ <;> cases h
    · simp only [herror, Dialogue.ofExcept, play, List.append_nil]
      refine ⟨trivial, fun e h => ?_, fun h => ?_, fun r' h => ?_⟩ <;> cases h
      exact .inr ⟨hacts, e, rfl, hcause⟩

open Rehearsal in
theorem inspect_resolve_divided :
    let w : Wallet := { feedWallet with pageSize := 2 }
    let chain := Chain.ofLedger .divided
    let accept : Message :=
      .call "terra1multisig" "terra1feed" (.object [("accept_proposal", .object [])])
    let inspected := (w.inspect (some 1) (some "terra1dave")).play Chain.node chain
    let resolved := (w.resolve (some 1) accept "terra1dave").play Chain.node chain
    Chain.node.Steady (· = chain) ∧
      accept.normalize = .ok (.wasmExecute "terra1feed" "eyJhY2NlcHRfcHJvcG9zYWwiOnt9fQ==" []) ∧
      resolved.exchanges = inspected.exchanges ∧
      (∃ r, inspected.outcome = .done r ∧ r.proposal.action = .approve) ∧
      resolved.outcome = .failed (.messageMismatch 1) := by
  intro w chain accept inspected resolved
  have hsteady : Chain.node.Steady (· = chain) :=
    ⟨Chain.keeps chain, fun _ _ _ _ hs ht => by rw [hs, ht]⟩
  have hnormal : accept.normalize =
    .ok (.wasmExecute "terra1feed" "eyJhY2NlcHRfcHJvcG9zYWwiOnt9fQ==" []) := rfl
  obtain ⟨hexchanges, -⟩ := inspect_resolve_agree (w := w) hsteady rfl rfl hnormal 1
    "terra1dave"
  have hrefused : resolved.outcome.failure? = some (.messageMismatch 1) := by decide +kernel
  have hadvised : (inspected.outcome.result?.map fun r => r.proposal.action) = some .approve := by
    decide +kernel
  obtain ⟨r, hr, haction⟩ := Option.map_eq_some_iff.1 hadvised
  exact ⟨hsteady, hnormal, hexchanges, ⟨r, Outcome.eq_done hr, haction⟩, Outcome.eq_failed hrefused⟩

end Wallet
end Countersign
