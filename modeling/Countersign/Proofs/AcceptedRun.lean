import Countersign.Node.Chain
import Countersign.Proofs.Run

/-! What becomes of a submission that the chain accepts. The proposal is then read again for a hint
about the next step, and it is this second look that decides whether the run reports at all. -/

namespace Countersign

open Dialogue

namespace Dispatcher

/-- The id that an accepted call is reported under: that of the proposal just made, or the one that
was known before. -/
def reportedId (p : ProposalState) (receipt : TxReceipt) : Option UInt64 :=
  if p.action = .create then (Relay.created? receipt.events).or p.id else p.id

theorem outcomeOf_accepted {d : Dispatcher} {p : ProposalState} {receipt : TxReceipt}
    (h : receipt.code = 0) :
    ∃ data, d.outcomeOf p receipt =
      .ok (.submitted p.action receipt.hash (reportedId p receipt) data) := by
  rw [outcomeOf, if_neg (not_not.2 h)]
  exact ⟨_, rfl⟩

end Dispatcher

namespace Wallet

theorem reread_runs {w : Wallet} {signer : String} {r : Resolution} {action : NextAction}
    {hash : String} {id : Option UInt64} {data : List (String × Json)} {es : List Exchange}
    {o : Outcome RunError RunReport}
    (h : Runs (w.reread signer r (.submitted action hash id data)) es o) :
    ((∃ report, o = .done report ∧ report.resolution = r ∧
        report.outcome = some (.submitted action hash id data)) ↔
      ∀ pid, id = some pid →
        ∃ latest, Runs (w.inspect (some pid) (some signer)) es (.done latest)) ∧
    ∀ pid e, id = some pid → Runs (w.inspect (some pid) (some signer)) es (.failed e) →
      o = .failed (.resolve e) := by
  cases id with
  | none =>
    cases h
    exact ⟨⟨by simp, fun _ => ⟨_, rfl, rfl, rfl⟩⟩, by simp⟩
  | some pid =>
    rw [reread] at h
    rcases h.of_part with ⟨latest, es₁, es₂, hlook, hlast, rfl⟩ | ⟨e, hlook, rfl⟩ | ⟨hlook, rfl⟩
    · cases hlast
      rw [List.append_nil]
      refine ⟨⟨?_, fun _ => ⟨_, rfl, rfl, rfl⟩⟩, ?_⟩
      · rintro - _ ⟨⟩
        exact ⟨latest, hlook⟩
      · rintro _ e ⟨⟩ hfailed
        cases hlook.outcome_unique hfailed
    · refine ⟨⟨by rintro ⟨_, ⟨⟩, -⟩, fun hall => ?_⟩, ?_⟩
      · obtain ⟨latest, hdone⟩ := hall pid rfl
        cases hlook.outcome_unique hdone
      · rintro _ e' ⟨⟩ hfailed
        cases hlook.outcome_unique hfailed
        rfl
    · refine ⟨⟨by rintro ⟨_, ⟨⟩, -⟩, fun hall => ?_⟩, ?_⟩
      · obtain ⟨latest, hdone⟩ := hall pid rfl
        cases hlook.outcome_unique hdone
      · rintro _ e' ⟨⟩ hfailed
        cases hlook.outcome_unique hfailed

/-- After an accepted submission the run ends with a report of it, under the receipt's hash and the
id of the proposal, exactly when the proposal can be read once more. When that fails, so does the
run, and the accepted call is not reported. -/
theorem accepted_reported_iff {σ : Type} (node : Node σ) (state : σ) (w : Wallet)
    (prepared : Prepared) (signer : String) (id : Option UInt64) {before after : List Exchange}
    {messages : List Message} {receipt : TxReceipt}
    (h : ((w.run .submit prepared signer id).play node state).exchanges =
      before ++ .submission messages (.ok receipt) :: after)
    (hcode : receipt.code = 0) :
    let outcome := ((w.run .submit prepared signer id).play node state).outcome
    ∃ r pid data, Runs (w.resolve id prepared.message signer) before (.done r) ∧
      (r.proposal.action = .create → pid = Relay.created? receipt.events) ∧
      (r.proposal.action ≠ .create → pid = r.proposal.id) ∧
      ((∃ report, outcome = .done report ∧ report.resolution = r ∧
          report.outcome = some (.submitted r.proposal.action receipt.hash pid data)) ↔
        ∀ p, pid = some p →
          ∃ latest, Runs (w.inspect (some p) (some signer)) after (.done latest)) ∧
      ∀ p e, pid = some p → Runs (w.inspect (some p) (some signer)) after (.failed e) →
        outcome = .failed (.resolve e) := by
  intro outcome
  have hrun : Runs (w.run .submit prepared signer id) _ outcome := runs_play node _ state
  rw [h] at hrun
  clear_value outcome
  have quiet : ∀ {es o}, Runs (w.resolve id prepared.message signer) es o →
      ∀ e ∈ es, e.isSubmission = false := (w.asksOnly_resolve _ _ _).no_submission
  have submitted : .submission messages (.ok receipt) ∈
      before ++ .submission messages (.ok receipt) :: after := by simp
  have loud : ∀ {es : List Exchange}, (∀ e ∈ es, e.isSubmission = false) →
      .submission messages (.ok receipt) ∉ es := fun hes hmem => by cases hes _ hmem
  -- the submission can only be that of the dispatch, which fixes what came before and after it
  rcases run_parts hrun with
    ⟨e, hr, -⟩ | ⟨hr, -⟩ | ⟨r, hr, -⟩ | ⟨r, es₁, es₂, es₃, o', hes, hr, -, hd, hes₃, hend⟩
  · exact absurd submitted (loud (quiet hr))
  · exact absurd submitted (loud (quiet hr))
  · exact absurd submitted (loud (quiet hr))
  rcases Dispatcher.dispatch_runs hd with rfl | ⟨-, call, reply, -, rfl, ho⟩
  · rw [hes] at submitted
    rcases List.mem_append.1 submitted with hmem | hmem
    · exact absurd hmem (loud (quiet hr))
    · exact absurd hmem (loud hes₃)
  · obtain ⟨rfl, hs, rfl⟩ :=
      (List.append_cons_inj_of_notMem (loud (quiet hr)) (loud hes₃)).1 hes.symm
    cases hs
    obtain ⟨data, hout⟩ := Dispatcher.outcomeOf_accepted
      (d := w.dispatcher .submit prepared) (p := r.proposal) hcode
    simp only [hout] at ho
    subst ho
    refine ⟨r, _, data, hr, fun hcreate => ?_, fun hother => ?_, reread_runs hend⟩
    · rw [Dispatcher.reportedId, if_pos hcreate, resolve_create hr hcreate, Option.or_none]
    · rw [Dispatcher.reportedId, if_neg hother]

end Wallet

/-! ### A node that fails after the submission -/

def Exchange.accepted? : Exchange → Option TxReceipt
  | .submission _ (.ok receipt) => if receipt.code = 0 then some receipt else none
  | _ => none

theorem Exchange.exists_submission {es : List Exchange} (h : es.any (·.accepted?.isSome)) :
    ∃ before messages receipt after,
      es = before ++ .submission messages (.ok receipt) :: after ∧ receipt.code = 0 := by
  obtain ⟨e, he, haccepted⟩ := List.any_eq_true.1 h
  obtain ⟨before, after, rfl⟩ := List.append_of_mem he
  cases e with
  | query contract question reply => cases haccepted
  | submission messages reply =>
    cases reply with
    | error e => cases haccepted
    | ok receipt =>
      refine ⟨before, messages, receipt, after, rfl, ?_⟩
      by_contra hcode
      simp [accepted?, hcode] at haccepted

def Outcome.failure? {ε α : Type} : Outcome ε α → Option ε
  | .failed e => some e
  | _ => none

theorem Outcome.eq_failed {ε α : Type} {o : Outcome ε α} {e : ε} (h : o.failure? = some e) :
    o = .failed e := by
  cases o with
  | failed e' => cases h; rfl
  | done a => cases h
  | stalled => cases h

namespace Rehearsal

def feedWallet : Wallet where
  multisig := "terra1multisig"
  group := "terra1group"

def beginProposal : Prepared where
  id := "ocr2:begin_proposal"
  contract := "terra1feed"
  message := .call "terra1multisig" "terra1feed" (.object [("begin_proposal", .object [])])
  summary := "Executing ocr2:begin_proposal from contract terra1feed\nInput Params: \x7b\x7d"
  afterExecute := some (Instruction.openedProposal "terra1feed")

def oneApproval : Json :=
  .object [("absolute_count", .object [("total_weight", .int 1), ("weight", .int 1)])]

def passed : Rehearsal where
  chain := {
    threshold := oneApproval
    members := [.object [("addr", .text "terra1alice"), ("weight", .int 1)]]
    proposals := [.object [
      ("description", .text "t"),
      ("id", .int 1),
      ("msgs", .list [.object [("wasm", .object [("execute", .object [
        ("contract_addr", .text "terra1feed"), ("funds", .list []),
        ("msg", .text "eyJiZWdpbl9wcm9wb3NhbCI6e319")])])]]),
      ("status", .text "passed"),
      ("title", .text "t")]] }

def passedThenDown : Rehearsal :=
  passed.prepareAnswers "threshold" [.ok oneApproval, .error (.transport "node down")]

end Rehearsal

open Rehearsal in
theorem Wallet.accepted_reported_passed :
    let p := (feedWallet.run .submit beginProposal "terra1alice" (some 1)).play node passed
    ∃ before messages receipt after,
      p.exchanges = before ++ .submission messages (.ok receipt) :: after ∧ receipt.code = 0 ∧
      ∃ r pid data,
        Runs (feedWallet.resolve (some 1) beginProposal.message "terra1alice") before (.done r) ∧
        (r.proposal.action = .create → pid = Relay.created? receipt.events) ∧
        (r.proposal.action ≠ .create → pid = r.proposal.id) ∧
        ((∃ report, p.outcome = .done report ∧ report.resolution = r ∧
            report.outcome = some (.submitted r.proposal.action receipt.hash pid data)) ↔
          ∀ q, pid = some q → ∃ latest,
            Runs (feedWallet.inspect (some q) (some "terra1alice")) after (.done latest)) ∧
        ∀ q e, pid = some q →
          Runs (feedWallet.inspect (some q) (some "terra1alice")) after (.failed e) →
          p.outcome = .failed (.resolve e) := by
  intro p
  have haccepted : p.exchanges.any (·.accepted?.isSome) := by decide +kernel
  obtain ⟨before, messages, receipt, after, h, hcode⟩ := Exchange.exists_submission haccepted
  exact ⟨before, messages, receipt, after, h, hcode, Wallet.accepted_reported_iff node passed
    feedWallet beginProposal "terra1alice" (some 1) h hcode⟩

open Rehearsal in
/-- The proposal is executed, the run fails with the query after it, and nothing tells of the
transaction. -/
theorem Wallet.accepted_unreported :
    let p := (feedWallet.run .submit beginProposal "terra1alice" (some 1)).play node passedThenDown
    (∃ before messages receipt after,
      p.exchanges = before ++ .submission messages (.ok receipt) :: after ∧ receipt.code = 0) ∧
      p.outcome = .failed (.resolve (.query none (.transport "node down"))) := by
  intro p
  have haccepted : p.exchanges.any (·.accepted?.isSome) := by decide +kernel
  have hfailed : p.outcome.failure? = some (.resolve (.query none (.transport "node down"))) := by
    decide +kernel
  exact ⟨Exchange.exists_submission haccepted, Outcome.eq_failed hfailed⟩

end Countersign
