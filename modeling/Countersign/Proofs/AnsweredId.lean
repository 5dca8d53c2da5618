import Countersign.Proofs.Agreement
import Countersign.Proofs.DryRun
import Mathlib

/-! The proposal that is acted on when one is asked for by its id. What the node answers has an id of its
own, and this id is reported, its votes are read, and it is voted on or executed. So a run stays with the
id that was asked for exactly when the answer has that id. -/

namespace Countersign

open Dialogue

namespace MultisigCall

def target? : MultisigCall → Option UInt64
  | .propose .. => none
  | .vote id _ => some id
  | .execute id => some id

theorem EncodedIn.unique {call call' : MultisigCall} {message : String}
    (h : call.EncodedIn message) (h' : call'.EncodedIn message) : call = call' := by
  obtain ⟨bytes, text, hbytes, htext, hparse, -⟩ := h
  obtain ⟨bytes', text', hbytes', htext', hparse', -⟩ := h'
  obtain rfl := Option.some.inj (hbytes.symm.trans hbytes')
  obtain rfl := Option.some.inj (htext.symm.trans htext')
  exact toJson_injective (Option.some.inj (hparse.symm.trans hparse'))

end MultisigCall

namespace Dispatcher

theorem target?_callFor {d : Dispatcher} {action : NextAction} {id : Option UInt64}
    {candidate : Message} {call : MultisigCall} (h : d.callFor action id candidate = .ok call)
    {pid : UInt64} (htarget : call.target? = some pid) : id = some pid := by
  rcases callFor_ok h with ⟨-, m, -, rfl⟩ | ⟨-, p, rfl, rfl⟩ | ⟨-, p, rfl, rfl⟩
  · cases htarget
  · exact htarget
  · exact htarget

end Dispatcher

namespace Wallet

variable {w : Wallet} {id : UInt64} {es : List Exchange}

/-! ### Reading the proposal -/

/-- Asked for the proposal with this id, the node gave `p`, and no other proposal. -/
def Answered (w : Wallet) (es : List Exchange) (id : UInt64) (p : ProposalRecord) : Prop :=
  ∀ q, Told es w.multisig (proposalQuery id) ProposalRecord.read? q ↔ q = p

theorem Answered.append {es₁ es₂ : List Exchange} {p : ProposalRecord}
    (h : w.Answered es₂ id p) (hquiet : Avoids "proposal" es₁) :
    w.Answered (es₁ ++ es₂) id p := by
  intro q
  rw [told_append, or_iff_right (hquiet.not_told rfl), h q]

theorem fetchApprovers_avoids {approvers : Roster}
    (h : Runs (w.fetchApprovers id) es (.done approvers)) : Avoids "proposal" es := by
  rw [fetchApprovers] at h
  obtain ⟨votes, es₁, es₂, hvotes, hlast, rfl⟩ := h.bind_done
  obtain ⟨rfl, -⟩ := hlast.pure_done
  obtain ⟨hall, -⟩ := (w.votes id).runs_all hvotes.mapError_done
  intro contract question reply he
  obtain ⟨cursor, v, he⟩ := hall _ (by simpa using he)
  cases he
  exact fun hkind => absurd (Option.some.inj hkind) (by decide)

theorem fetchProposal_answered {s : Snapshot} (h : Runs (w.fetchProposal id) es (.done s)) :
    ∃ p, w.Answered es id p ∧ s.id = p.id := by
  rw [fetchProposal] at h
  obtain ⟨p, es₁, es₂, hask, hsnapshot, rfl⟩ := h.bind_done
  obtain ⟨v, rfl, hv⟩ := hask.mapError_done.ask_done
  refine ⟨p, fun q => ?_, (snapshot_done hsnapshot).1⟩
  -- only votes are asked for after the proposal, so there is one answer
  rw [snapshot] at hsnapshot
  obtain ⟨messages, es₃, es₄, hread, hrest, rfl⟩ := hsnapshot.bind_done
  obtain ⟨rfl, -⟩ := Runs.ofExcept_done hread.mapError_done
  obtain ⟨approvers, es₅, es₆, hvotes, hlast, rfl⟩ := hrest.bind_done
  obtain ⟨rfl, -⟩ := hlast.pure_done
  rw [List.nil_append, List.append_nil, told_append,
    or_iff_left ((fetchApprovers_avoids hvotes).not_told rfl)]
  constructor
  · rintro ⟨u, hu, hq⟩
    obtain rfl : u = v := by simpa using hu
    exact Option.some.inj (hq.symm.trans hv)
  · rintro rfl
    exact ⟨v, by simp, hv⟩

theorem inspect_answered {signer : Option String} {r : Resolution}
    (h : Runs (w.inspect (some id) signer) es (.done r)) :
    ∃ p, w.Answered es id p ∧ r.proposal.id = some p.id := by
  rw [inspect_eq] at h
  obtain ⟨multisig, es₁, es₂, hmultisig, hrest, rfl⟩ := h.bind_done
  obtain ⟨snapshot, es₃, es₄, hsurvey, hlast, rfl⟩ := hrest.bind_done
  obtain ⟨rfl, rfl⟩ := hlast.pure_done
  obtain ⟨s, es₅, es₆, hfetch, hsome, rfl⟩ := hsurvey.bind_done
  obtain ⟨rfl, rfl⟩ := hsome.pure_done
  obtain ⟨p, hp, hid⟩ := fetchProposal_answered hfetch
  obtain ⟨-, -, hquiet, -⟩ := fetchMultisig_done hmultisig
  refine ⟨p, ?_, congrArg some hid⟩
  simpa using hp.append hquiet

theorem inspect_of_resolve {candidate : Message} {signer : String} {r : Resolution}
    (h : Runs (w.resolve (some id) candidate signer) es (.done r)) :
    Runs (w.inspect (some id) (some signer)) es (.done r) := by
  cases hm : candidate.normalize with
  | error e =>
    rw [resolve_eq, hm] at h
    cases h
  | ok m =>
    rw [resolve_eq_inspect hm] at h
    obtain ⟨found, es₁, es₂, hfound, hconfirmed, rfl⟩ := h.bind_done
    obtain ⟨rfl, hok⟩ := Runs.ofExcept_done hconfirmed
    rcases found.confirmed_cases m with hsame | ⟨-, e, herror, -⟩
    · cases hok.symm.trans hsame
      simpa using hfound
    · cases hok.symm.trans herror

/-! ### Acting on it -/

/-- The call is submitted for `signer`, or encoded for others. -/
def Enacts (w : Wallet) (signer : String) (call : MultisigCall) (es : List Exchange)
    (o : Outcome RunError RunReport) : Prop :=
  (∃ reply, .submission [.execute signer w.multisig call.toJson []] reply ∈ es) ∨
    ∃ report action id message, o = .done report ∧
      report.outcome = some (.encoded action id message) ∧ call.EncodedIn message

theorem Enacts.of_perform {mode : DispatchMode} {prepared : Prepared} {signer : String}
    {r : Resolution} {call : MultisigCall} {o : Outcome RunError RunReport}
    (henacts : w.Enacts signer call es o) (h : Runs (w.perform mode prepared signer r) es o) :
    (w.dispatcher mode prepared).callFor r.proposal.action r.proposal.id prepared.message =
      .ok call := by
  rcases henacts with ⟨reply, hmem⟩ | ⟨report, action, id, message, rfl, hout, hencoded⟩
  · obtain ⟨call', hcall, hmessages⟩ := perform_submission h hmem
    obtain rfl : call = call' := MultisigCall.toJson_injective (by simpa using hmessages)
    exact hcall
  · rcases w.perform_cases mode prepared signer r with hd | ⟨e, hd⟩ | ⟨call', hcall, hd | hd⟩
    · rw [hd] at h; cases h; cases hout
    · rw [hd] at h; cases h
    · rw [hd] at h
      cases h
      cases hout
      rwa [hencoded.unique call'.encodedIn_encodeJson]
    · rw [hd] at h
      cases h with
      | submit hrest =>
        obtain ⟨_, _, _, _, hsubmitted⟩ := settle_done hrest
        cases hsubmitted.symm.trans hout

theorem not_enacts {signer : String} {call : MultisigCall} {o : Outcome RunError RunReport}
    (hquiet : ∀ e ∈ es, e.isSubmission = false) (hnone : o.result? = none) :
    ¬w.Enacts signer call es o := by
  rintro (⟨reply, hmem⟩ | ⟨report, _, _, _, rfl, -⟩)
  · cases hquiet _ hmem
  · cases hnone

theorem Enacts.resolved {mode : DispatchMode} {prepared : Prepared} {signer : String}
    {asked : Option UInt64} {call : MultisigCall} {o : Outcome RunError RunReport}
    (henacts : w.Enacts signer call es o) (h : Runs (w.run mode prepared signer asked) es o) :
    ∃ before after r, es = before ++ after ∧
      Runs (w.resolve asked prepared.message signer) before (.done r) ∧
      (w.dispatcher mode prepared).callFor r.proposal.action r.proposal.id prepared.message =
        .ok call := by
  have quiet : ∀ {es o}, Runs (w.resolve asked prepared.message signer) es o →
      ∀ e ∈ es, e.isSubmission = false := (w.asksOnly_resolve _ _ _).no_submission
  rw [run_eq] at h
  rcases h.of_part with ⟨r, before, after, hr, hperform, rfl⟩ | ⟨e, hr, rfl⟩ | ⟨hr, rfl⟩
  · have hstep : w.Enacts signer call after o := by
      refine henacts.imp_left fun ⟨reply, hmem⟩ => ⟨reply, ?_⟩
      exact (List.mem_append.1 hmem).resolve_left fun hmem => by cases quiet hr _ hmem
    exact ⟨before, after, r, rfl, hr, hstep.of_perform hperform⟩
  · exact absurd henacts (not_enacts (quiet hr) rfl)
  · exact absurd henacts (not_enacts (quiet hr) rfl)

/-- Whatever the node answers, a resolution and an inspection by id are about the proposal that the node
gave for the id, and so is every vote and every execution of a run. Each is about the id that was asked
for exactly when that proposal has it. -/
theorem acts_as_answered (w : Wallet) (id : UInt64) :
    (∀ candidate signer es r, Runs (w.resolve (some id) candidate signer) es (.done r) →
      ∃ p, w.Answered es id p ∧ ∀ pid, r.proposal.id = some pid ↔ p.id = pid) ∧
    (∀ signer es r, Runs (w.inspect (some id) signer) es (.done r) →
      ∃ p, w.Answered es id p ∧ ∀ pid, r.proposal.id = some pid ↔ p.id = pid) ∧
    ∀ mode prepared signer es o, Runs (w.run mode prepared signer (some id)) es o →
      ∀ call pid, call.target? = some pid → w.Enacts signer call es o →
        ∃ before after p, es = before ++ after ∧ w.Answered before id p ∧ p.id = pid := by
  have hinspect : ∀ signer es r, Runs (w.inspect (some id) signer) es (.done r) →
      ∃ p, w.Answered es id p ∧ ∀ pid, r.proposal.id = some pid ↔ p.id = pid := by
    intro signer es r h
    obtain ⟨p, hp, hid⟩ := inspect_answered h
    exact ⟨p, hp, fun pid => by rw [hid, Option.some.injEq]⟩
  refine ⟨fun candidate signer es r h => hinspect _ es r (inspect_of_resolve h), hinspect, ?_⟩
  intro mode prepared signer es o h call pid htarget henacts
  obtain ⟨before, after, r, rfl, hr, hcall⟩ := henacts.resolved h
  obtain ⟨p, hp, hid⟩ := hinspect _ before r (inspect_of_resolve hr)
  exact ⟨before, after, p, rfl, hp, (hid pid).1 (Dispatcher.target?_callFor hcall htarget)⟩

end Wallet

/-! ### A node that gives another proposal -/

def DispatchOutcome.message? : DispatchOutcome → Option String
  | .encoded _ _ message => some message
  | .submitted .. => none

theorem Wallet.enacts_of_message {w : Wallet} {signer : String} {call : MultisigCall}
    {es : List Exchange} {o : Outcome RunError RunReport}
    (h : (o.result?.bind RunReport.outcome).bind DispatchOutcome.message? =
      some (encodeJson call.toJson)) : w.Enacts signer call es o := by
  obtain ⟨out, hout, hmessage⟩ := Option.bind_eq_some_iff.1 h
  obtain ⟨report, hreport, hout⟩ := Option.bind_eq_some_iff.1 hout
  cases out with
  | submitted => cases hmessage
  | encoded action id message =>
    cases hmessage
    exact .inr ⟨report, action, id, _, Outcome.eq_done hreport, hout, call.encodedIn_encodeJson⟩

namespace Rehearsal

def unvoted : Rehearsal where
  chain := .ofLedger { Ledger.delegating with proposals := [.beginProposal 1 .open] }

def misnumbered : Rehearsal :=
  unvoted.prepareAnswers "proposal" [.ok (ProposalRecord.beginProposal 2 .open).toJson]

def resolveFirst (s : Rehearsal) : Play Rehearsal ResolveError Resolution :=
  (feedWallet.resolve (some 1) beginProposal.message "terra1alice").play node s

def inspectFirst (s : Rehearsal) : Play Rehearsal ResolveError Resolution :=
  (feedWallet.inspect (some 1) none).play node s

def encodeFirst (s : Rehearsal) : Play Rehearsal RunError RunReport :=
  (feedWallet.run .dryRun beginProposal "terra1alice" (some 1)).play node s

end Rehearsal

open Rehearsal

theorem Wallet.acts_as_answered_unvoted :
    (∀ p ∈ [unvoted.resolveFirst, unvoted.inspectFirst], ∃ r, p.outcome = .done r ∧
      ∃ q, feedWallet.Answered p.exchanges 1 q ∧ ∀ pid, r.proposal.id = some pid ↔ q.id = pid) ∧
    feedWallet.Enacts "terra1alice" (.vote 1 "yes") unvoted.encodeFirst.exchanges
      unvoted.encodeFirst.outcome ∧
    ∃ before after q, unvoted.encodeFirst.exchanges = before ++ after ∧
      feedWallet.Answered before 1 q ∧ q.id = 1 := by
  obtain ⟨hresolve, hinspect, hrun⟩ := acts_as_answered feedWallet 1
  have hresolved : unvoted.resolveFirst.outcome.result?.isSome := by decide +kernel
  have hinspected : unvoted.inspectFirst.outcome.result?.isSome := by decide +kernel
  obtain ⟨r, hr⟩ := Option.isSome_iff_exists.1 hresolved
  obtain ⟨r', hr'⟩ := Option.isSome_iff_exists.1 hinspected
  have hencodes : feedWallet.Enacts "terra1alice" (.vote 1 "yes") unvoted.encodeFirst.exchanges
      unvoted.encodeFirst.outcome := enacts_of_message (by decide +kernel)
  refine ⟨?_, hencodes,
    hrun _ _ _ _ _ (runs_play node _ unvoted) (.vote 1 "yes") 1 rfl hencodes⟩
  simp only [List.forall_mem_cons, List.not_mem_nil, false_imp_iff, implies_true, and_true]
  exact ⟨⟨r, Outcome.eq_done hr, hresolve _ _ _ r (Outcome.eq_done hr ▸ runs_play node _ unvoted)⟩,
    ⟨r', Outcome.eq_done hr', hinspect _ _ r' (Outcome.eq_done hr' ▸ runs_play node _ unvoted)⟩⟩

/-- Asked for the first proposal, both reports are about the second one, and a vote on it is encoded. -/
theorem Wallet.acts_elsewhere :
    (∀ p ∈ [misnumbered.resolveFirst, misnumbered.inspectFirst], ∃ r, p.outcome = .done r ∧
      r.proposal.id = some 2) ∧
    feedWallet.Enacts "terra1alice" (.vote 2 "yes") misnumbered.encodeFirst.exchanges
      misnumbered.encodeFirst.outcome := by
  refine ⟨fun p hp => ?_, enacts_of_message (by decide +kernel)⟩
  have hall : ∀ p ∈ [misnumbered.resolveFirst, misnumbered.inspectFirst],
      p.outcome.result?.map (·.proposal.id) = some (some 2) := by decide +kernel
  obtain ⟨r, hr, hid⟩ := Option.map_eq_some_iff.1 (hall p hp)
  exact ⟨r, Outcome.eq_done hr, hid⟩

end Countersign
