import Countersign.Proofs.ReferenceDecision
import Mathlib

/-! Which proposal a resolution without an id is about: of the latest ones, as many as make a page,
the newest that can still be acted on and holds the candidate. Older ones are not looked at. -/

namespace Countersign

open Dialogue

def ProposalRecord.Fits (candidate : StoredMessage) (p : ProposalRecord) : Prop :=
  p.status.isActionable ∧ p.Holds candidate

namespace Wallet

variable {σ : Type} {node : Node σ} {P : σ → Prop} {w : Wallet}

open Classical in
theorem selectOpen_eq_find? {candidate : StoredMessage} {page : List ProposalRecord}
    {found : Option ProposalRecord} (h : selectOpen candidate page = .ok found) :
    found = page.find? (·.Fits candidate) := by
  cases found with
  | none =>
    refine (List.find?_eq_none.2 fun p hp => ?_).symm
    have hp : ¬p.Fits candidate := (selectOpen_eq_none h p hp).not_holds
    simpa using hp
  | some p =>
    obtain ⟨newer, older, rfl, hp, hnewer⟩ := selectOpen_eq_some h
    have hp : p.Fits candidate := hp
    refine (List.find?_eq_some_iff_append.2
      ⟨by simpa using hp, newer, older, rfl, fun q hq => ?_⟩).symm
    have hq : ¬q.Fits candidate := (hnewer q hq).not_holds
    simpa using hq

open Classical in
theorem meets_findOpen {page : List ProposalRecord} {candidate : StoredMessage}
    (hkeeps : node.Keeps P)
    (hrecent : node.Tells P w.multisig w.recentQuery ProposalRecord.readPage? page) :
    (w.findOpen candidate).Meets node P (·.Gives fun found =>
      found.map Snapshot.id = (page.find? (·.Fits candidate)).map ProposalRecord.id) := by
  refine ((ends_ask hkeeps hrecent).mapError _).bind (Meets.bind_gives
    (Q := fun found => found = page.find? (·.Fits candidate)) ?_ fun found hfound => ?_)
  · exact (asksOnly_ofExcept _).mapError.gives hkeeps fun es a hrun =>
      selectOpen_eq_find? (Runs.ofExcept_done hrun.mapError_done).2
  · rw [← hfound]
    cases found with
    | none => exact meets_done fun a ha => by cases ha; rfl
    | some p =>
      refine Meets.bind_gives (Q := fun s => s.id = p.id) ?_ fun s hs => ?_
      · exact (w.asksOnly_snapshot p).gives hkeeps fun es s hrun => (snapshot_done hrun).1
      · exact meets_done fun a ha => by cases ha; exact congrArg some hs

theorem conclude_ok {multisig : MultisigState} {snapshot : Option Snapshot} {m : StoredMessage}
    {signer : String} {r : Resolution} (h : conclude multisig snapshot m signer = .ok r) :
    r.proposal.id = snapshot.map Snapshot.id ∧
      (r.proposal.action = .create ↔ snapshot = none) := by
  obtain ⟨action, hnext, rfl⟩ := map_eq_ok.1 h
  cases snapshot with
  | none => exact ⟨rfl, iff_of_true rfl rfl⟩
  | some s =>
    refine ⟨rfl, iff_of_false (fun hcreate => ?_) nofun⟩
    obtain rfl : action = .create := hcreate
    exact Snapshot.action_ne_create (nextAction_some.1 hnext).1

open Classical in
theorem meets_resolve {L : Ledger} (hreports : w.Reports node P L) (candidate : Message)
    (signer : String) :
    (w.resolve none candidate signer).Meets node P (·.Gives fun r =>
      ∃ m, candidate.normalize = .ok m ∧
        let newest := (L.proposals.reverse.take w.pageSize.toNat).find? (·.Fits m)
        r.proposal.id = newest.map ProposalRecord.id ∧
          (r.proposal.action = .create ↔ newest = none)) := by
  rw [resolve_eq]
  refine Meets.bind_gives (Q := fun m => candidate.normalize = .ok m) ?_ fun m hm => ?_
  · exact (asksOnly_ofExcept _).mapError.gives hreports.keeps fun es m hrun =>
      (Runs.ofExcept_done hrun.mapError_done).2
  refine w.asksOnly_fetchMultisig.bind_gives hreports.keeps fun multisig => ?_
  refine (meets_findOpen hreports.keeps hreports.recent).bind_gives fun snapshot hsnapshot => ?_
  refine (asksOnly_ofExcept _).gives hreports.keeps fun es r hrun => ⟨m, hm, ?_⟩
  obtain ⟨hid, hcreate⟩ := conclude_ok (Runs.ofExcept_done hrun).2
  refine ⟨hid.trans hsnapshot, hcreate.trans ?_⟩
  rw [← Option.map_eq_none_iff, hsnapshot, Option.map_eq_none_iff]

/-- A resolution without an id creates a proposal exactly when none of the latest ones fits. So it
doubles one that fits whenever that one is older; and if it is about a proposal, then that is the
newest of all that fit. -/
theorem resolve_newest {L : Ledger} (hreports : w.Reports node P L) {candidate : Message}
    {signer : String} {s : σ} (hs : P s) {r : Resolution}
    (h : ((w.resolve none candidate signer).play node s).outcome = .done r) :
    ∃ m, candidate.normalize = .ok m ∧
      let beyond := L.proposals.length - w.pageSize.toNat
      (r.proposal.action = .create ↔ ∀ p ∈ L.proposals.drop beyond, ¬p.Fits m) ∧
      (r.proposal.action = .create →
        ((∀ p ∈ L.proposals, ¬p.Fits m) ↔ ∀ p ∈ L.proposals.take beyond, ¬p.Fits m)) ∧
      (r.proposal.action ≠ .create → ∃ older p newer, L.proposals = older ++ p :: newer ∧
        r.proposal.id = some p.id ∧ p.Fits m ∧ ∀ q ∈ newer, ¬q.Fits m) := by
  classical
  obtain ⟨m, hm, hid, hcreate⟩ := (meets_resolve hreports candidate signer s hs).2 r h
  refine ⟨m, hm, ?_⟩
  intro beyond
  have hpage : L.proposals.reverse.take w.pageSize.toNat = (L.proposals.drop beyond).reverse :=
    List.take_reverse
  have hsplit : L.proposals.take beyond ++ L.proposals.drop beyond = L.proposals :=
    List.take_append_drop beyond L.proposals
  have hfree : r.proposal.action = .create ↔ ∀ p ∈ L.proposals.drop beyond, ¬p.Fits m := by
    rw [hcreate, hpage, List.find?_eq_none]
    simp
  refine ⟨hfree, fun hnone => ⟨fun hall p hp => hall p (List.mem_of_mem_take hp), ?_⟩, fun hsome => ?_⟩
  · intro hall p hp
    rw [← hsplit, List.mem_append] at hp
    exact hp.elim (hall p) (hfree.1 hnone p)
  · obtain ⟨p, hp⟩ := Option.ne_none_iff_exists'.1 (mt hcreate.2 hsome)
    obtain ⟨hfits, newer, older, hlist, hnewer⟩ := List.find?_eq_some_iff_append.1 hp
    rw [hpage, List.reverse_eq_iff, List.reverse_append, List.reverse_cons] at hlist
    refine ⟨L.proposals.take beyond ++ older.reverse, p, newer.reverse, ?_, ?_, ?_, ?_⟩
    · calc
        L.proposals = L.proposals.take beyond ++ L.proposals.drop beyond := hsplit.symm
        _ = (L.proposals.take beyond ++ older.reverse) ++ p :: newer.reverse := by
          simp only [hlist, List.append_assoc, List.cons_append, List.nil_append]
    · rw [hid, hp, Option.map_some]
    · simpa using hfits
    · simpa using hnewer

end Wallet

def Ledger.buried : Ledger where
  threshold := .absoluteCount 2
  members := [⟨"terra1alice", 1⟩, ⟨"terra1bob", 1⟩]
  proposals := [.beginProposal 1 .open, .beginProposal 2 .executed]
  votes id := if id = 1 then [⟨"terra1alice", .yes, 1⟩] else []

theorem Ledger.records_buried : (Chain.ofLedger .buried).Records .buried :=
  Chain.records_of_member List.mem_cons_self fun _ hid => if_neg hid

theorem ProposalRecord.beginProposal_fits (id : UInt64) :
    (beginProposal id .open).Fits .beginProposal :=
  ⟨rfl, [.beginProposal], rfl, StoredMessage.messagesMatch_self
    (StoredMessage.canonicalizes_of_normalize normalize_beginProposal)⟩

namespace Wallet

def lookingBack (pageSize : UInt32) : Outcome ResolveError Resolution :=
  ((({ Rehearsal.feedWallet with pageSize } : Wallet).resolve none Rehearsal.beginProposal.message
    "terra1bob").play Chain.node (.ofLedger .buried)).outcome

theorem resolve_newest_buried : ∃ r, lookingBack 2 = .done r ∧ r.proposal.action = .approve ∧
    ∃ older p newer, Ledger.buried.proposals = older ++ p :: newer ∧
      r.proposal.id = some p.id ∧ p.Fits .beginProposal ∧ ∀ q ∈ newer, ¬q.Fits .beginProposal := by
  have happroves : (lookingBack 2).result?.map (·.proposal.action) = some .approve := by
    decide +kernel
  obtain ⟨r, hr, haction⟩ := Option.map_eq_some_iff.1 happroves
  obtain ⟨m, hm, -, -, hfound⟩ := resolve_newest
    (Chain.reports Ledger.records_buried { Rehearsal.feedWallet with pageSize := 2 }) rfl
    (Outcome.eq_done hr)
  cases normalize_beginProposal.symm.trans hm
  exact ⟨r, Outcome.eq_done hr, haction, hfound (by simp [haction])⟩

/-- A page of one proposal does not, and a second proposal for the same call is created. -/
theorem resolve_buried : (∃ r, lookingBack 1 = .done r ∧ r.proposal.action = .create) ∧
    ∃ p ∈ Ledger.buried.proposals, p.Fits .beginProposal := by
  have hcreates : (lookingBack 1).result?.map (·.proposal.action) = some .create := by
    decide +kernel
  obtain ⟨r, hr, haction⟩ := Option.map_eq_some_iff.1 hcreates
  exact ⟨⟨r, Outcome.eq_done hr, haction⟩, .beginProposal 1 .open, by simp [Ledger.buried],
    ProposalRecord.beginProposal_fits 1⟩

end Wallet
end Countersign
