import Countersign.Proofs.Incomparable
import Mathlib

/-! The search for an open proposal that holds the candidate. Every proposal of the page fits, is passed
over or obstructs the search, and the first that is not passed over decides. What the search finds is the
candidate, so a resolution without an id has no mismatch to report. -/

namespace Countersign

open Dialogue

/-- The error finds fault with a proposal that was looked up. -/
def ResolveError.faults : ResolveError → Bool
  | .messageMismatch _ | .proposalNotFound _ => true
  | _ => false

namespace ProposalRecord

variable {candidate : StoredMessage} {p : ProposalRecord}

theorem verdict_eq_error (hcandidate : candidate.Canonicalizes) :
    (∃ e, p.verdict candidate = .error e) ↔ p.Obstructs := by
  refine ⟨fun ⟨e, he⟩ => ?_, fun hp => hp.verdict_error candidate⟩
  by_contra hclear
  cases hp : p.comparable with
  | true =>
    obtain ⟨fits, hfits⟩ := exists_verdict hcandidate hp
    cases he.symm.trans hfits
  | false => cases he.symm.trans (verdict_of_not_comparable hp hclear)

theorem misses_iff (hcandidate : candidate.Canonicalizes) :
    p.Misses candidate ↔ ¬p.Fits candidate ∧ ¬p.Obstructs := by
  have hfits : p.Fits candidate ↔ p.verdict candidate = .ok true := verdict_eq_true.symm
  rw [hfits, ← verdict_eq_false, ← verdict_eq_error hcandidate]
  rcases p.verdict candidate with e | _ | _ <;> simp

end ProposalRecord

namespace Wallet

variable {candidate : StoredMessage} {page : List ProposalRecord} {w : Wallet}

theorem obstructed_of_selectOpen (hcandidate : candidate.Canonicalizes) {e : MessageError}
    (h : selectOpen candidate page = .error e) : Obstructed candidate page := by
  induction page with
  | nil => cases h
  | cons q rest ih =>
    rw [selectOpen_cons] at h
    rw [obstructed_cons]
    cases hverdict : q.verdict candidate with
    | error e' => exact .inl ((ProposalRecord.verdict_eq_error hcandidate).1 ⟨e', hverdict⟩)
    | ok fits =>
      rw [hverdict] at h
      cases fits with
      | true => cases h
      | false => exact .inr ⟨ProposalRecord.not_holds_of_verdict hverdict, ih h⟩

/-! ### Resolving without an id -/

theorem errs_fetchMultisig (w : Wallet) : w.fetchMultisig.Errs (·.faults = false) := by
  rw [fetchMultisig]
  refine Errs.bind (errs_mapError fun _ => rfl) fun _ threshold _ => ?_
  refine Errs.bind (errs_mapError fun _ => rfl) fun _ members _ => ?_
  cases threshold.required with
  | ok required => exact (errs_done required).bind fun _ _ _ => errs_done _
  | error kind => exact fun es e h => by cases h; rfl

theorem errs_findOpen (w : Wallet) (candidate : StoredMessage) :
    (w.findOpen candidate).Errs (·.faults = false) := by
  change (w.recentProposals >>= w.choose candidate).Errs _
  refine Errs.bind (errs_mapError fun _ => rfl) fun _ page _ es e h => ?_
  rcases runs_choose_cases h with
    ⟨_, -, -, ho⟩ | ⟨-, ho⟩ | ⟨p, -, ⟨s, ho, -⟩ | ⟨_, ho⟩ | ho⟩ <;> cases ho <;> rfl

theorem conclude_of_found {found : Option Snapshot} {es : List Exchange}
    (h : Runs (w.findOpen candidate) es (.done found)) (multisig : MultisigState) (signer : String) :
    ∃ r, conclude multisig found candidate signer = .ok r := by
  obtain ⟨_, es₂, page, -, -, -, -, hfound⟩ := findOpen_done h
  suffices ∃ action, nextAction found multisig.threshold candidate
      (found.any fun s => s.approvers.contains signer) = .ok action by
    obtain ⟨action, haction⟩ := this
    exact ⟨_, by rw [conclude, haction]; rfl⟩
  cases found with
  | none => exact ⟨.create, rfl⟩
  | some s =>
    obtain ⟨p, -, ⟨stored, hstored, hmatch⟩, hsnapshot⟩ := hfound
    have hmessages : p.messages.mapM StoredMessage.ofJson = .ok s.messages :=
      (snapshot_done hsnapshot).2.2.1
    obtain rfl : stored = s.messages := Except.ok.inj (hstored.symm.trans hmessages)
    exact ⟨_, nextAction_some.2 ⟨rfl, fun _ => hmatch⟩⟩

theorem errs_resolve_none (w : Wallet) (message : Message) (signer : String) :
    (w.resolve none message signer).Errs (·.faults = false) := by
  rw [resolve_eq]
  refine Errs.bind (errs_mapError fun _ => rfl) fun _ m _ => ?_
  refine w.errs_fetchMultisig.bind fun _ multisig _ => ?_
  refine (w.errs_findOpen m).bind fun _ found hfound es e h => ?_
  obtain ⟨r, hr⟩ := conclude_of_found hfound multisig signer
  cases hr.symm.trans (Runs.ofExcept_failed h).2

/-- The search gives the first proposal of the page that is not passed over, if it fits. It gives none
when all are passed over, and fails by itself when one obstructs it. So a resolution without an id has
no proposal to find fault with. -/
theorem searches_first (hcandidate : candidate.Canonicalizes) {reply : Json}
    (hreply : ProposalRecord.readPage? reply = some page) :
    (∀ es o, w.Searches candidate reply es o →
      (∀ s, o = .done (some s) → ∃ newer p older, page = newer ++ p :: older ∧
        p.Fits candidate ∧ (∀ q ∈ newer, q.Misses candidate) ∧ s.id = p.id ∧
        s.status = p.status ∧ p.messages.mapM StoredMessage.ofJson = .ok s.messages) ∧
      (o = .done none ↔ ∀ q ∈ page, ¬q.Fits candidate ∧ ¬q.Obstructs) ∧
      ((∃ e, o = .failed e ∧ ∀ id source, e ≠ .query id source) ↔ Obstructed candidate page)) ∧
    ∀ message signer es e, Runs (w.resolve none message signer) es (.failed e) →
      ∀ id, e ≠ .messageMismatch id ∧ e ≠ .proposalNotFound id := by
  refine ⟨fun es o h => ?_, fun message signer es e h id => ?_⟩
  · rw [searches_iff hreply] at h
    rcases runs_choose_cases h with ⟨e, -, hselect, rfl⟩ | ⟨hselect, rfl⟩ | ⟨p, hselect, hend⟩
    · have hobstructed := obstructed_of_selectOpen hcandidate hselect
      refine ⟨nofun, iff_of_false nofun fun hall => ?_, iff_of_true ⟨_, rfl, nofun⟩ hobstructed⟩
      obtain ⟨newer, p, older, rfl, hp, -⟩ := hobstructed
      exact (hall p (by simp)).2 hp
    · have hmisses : ∀ q ∈ page, ¬q.Fits candidate ∧ ¬q.Obstructs := fun q hq =>
        (ProposalRecord.misses_iff hcandidate).1 (selectOpen_eq_none hselect q hq)
      refine ⟨nofun, iff_of_true rfl hmisses, iff_of_false nofun fun hobstructed => ?_⟩
      obtain ⟨newer, p, older, rfl, hp, -⟩ := hobstructed
      exact (hmisses p (by simp)).2 hp
    · obtain ⟨newer, older, rfl, hp, hnewer⟩ := selectOpen_eq_some hselect
      have hclear : ¬Obstructed candidate (newer ++ p :: older) := fun hobstructed => by
        obtain ⟨e, he⟩ := selectOpen_obstructed hobstructed
        cases hselect.symm.trans he
      have hsome : ¬∀ q ∈ newer ++ p :: older, ¬q.Fits candidate ∧ ¬q.Obstructs :=
        fun hall => (hall p (by simp)).1 hp
      rcases hend with ⟨s, rfl, hs⟩ | ⟨source, rfl⟩ | rfl
      · refine ⟨fun s' hs' => ?_, iff_of_false nofun hsome, iff_of_false nofun hclear⟩
        cases hs'
        exact ⟨newer, p, older, rfl, hp, hnewer, hs⟩
      · refine ⟨nofun, iff_of_false nofun hsome, iff_of_false ?_ hclear⟩
        rintro ⟨e, he, hquery⟩
        cases he
        exact hquery _ _ rfl
      · exact ⟨nofun, iff_of_false nofun hsome, iff_of_false nofun hclear⟩
  · have hfaults : e.faults = false := w.errs_resolve_none message signer es e h
    constructor <;> rintro rfl <;> cases hfaults

open Rehearsal ProposalRecord in
theorem searches_first_passedOver :
    ∃ es s, feedWallet.Searches .beginProposal (pageJson passedOver) es (.done (some s)) ∧
      s.id = 1 ∧ ∃ newer p older, passedOver = newer ++ p :: older ∧ p.Fits .beginProposal ∧
        (∀ q ∈ newer, q.Misses .beginProposal) ∧ s.id = p.id := by
  let p := (feedWallet.choose .beginProposal passedOver).play Chain.node (.ofLedger .buried)
  have hreply := readPage?_pageJson passedOver
  have hfirst : p.outcome.result?.join.map Snapshot.id = some 1 := by decide +kernel
  obtain ⟨s, hs, hid⟩ := Option.map_eq_some_iff.1 hfirst
  have hsearch : feedWallet.Searches .beginProposal (pageJson passedOver) p.exchanges
      (.done (some s)) := by
    rw [searches_iff hreply, ← Outcome.eq_done (Option.join_eq_some_iff.1 hs)]
    exact runs_play Chain.node _ _
  have hcandidate := StoredMessage.canonicalizes_of_normalize normalize_beginProposal
  obtain ⟨newer, q, older, hpage, hq, hnewer, hsame, -⟩ :=
    ((searches_first hcandidate hreply).1 _ _ hsearch).1 s rfl
  exact ⟨_, s, hsearch, hid, newer, q, older, hpage, hq, hnewer, hsame⟩

end Wallet
end Countersign
