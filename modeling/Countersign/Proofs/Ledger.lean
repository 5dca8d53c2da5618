import Countersign.Multisig.Wallet
import Countersign.Proofs.Evidence
import Countersign.Proofs.Pages
import Mathlib

/-! What a multisig and its group hold, and what a wallet reads of it from any node that answers its
queries accordingly. -/

namespace Countersign

open Dialogue

theorem Roster.ofList_eq_insertionSort {as bs : List String} (hperm : as.Perm bs) (h : as.Nodup) :
    Roster.ofList as = bs.insertionSort (· ≤ ·) := by
  have hsorted : (Roster.ofList as).Pairwise (· ≤ ·) :=
    (Roster.ascending_ofList as).imp le_of_lt
  refine List.Perm.eq_of_pairwise' hsorted (List.pairwise_insertionSort _ _) ?_
  refine List.Perm.trans ?_ (hperm.trans (List.perm_insertionSort _ _).symm)
  exact (List.perm_ext_iff_of_nodup (Roster.nodup_ofList _) h).2 fun _ => Roster.mem_ofList

def VoteRecord.approvers (votes : List VoteRecord) : List String :=
  ((votes.filter (·.vote == .yes)).map voter).insertionSort (· ≤ ·)

theorem VoteRecord.mem_approvers {votes : List VoteRecord} {address : String} :
    address ∈ approvers votes ↔ ∃ v ∈ votes, v.vote = .yes ∧ v.voter = address := by
  simp only [approvers, List.mem_insertionSort, List.mem_map, List.mem_filter, beq_iff_eq,
    and_assoc]

/-- Proposals stand in the order in which they were made, votes by the id of their proposal. -/
structure Ledger where
  threshold : Threshold
  members : List Member
  proposals : List ProposalRecord
  votes : UInt64 → List VoteRecord

namespace Ledger

def proposal? (L : Ledger) (id : UInt64) : Option ProposalRecord :=
  L.proposals.find? (·.id == id)

end Ledger

namespace Wallet

variable {σ : Type} {node : Node σ} {P : σ → Prop} {w : Wallet} {L : Ledger}

/-- In the states in `P`, which queries do not leave, the node answers by the ledger, when it is asked for
the threshold, for a proposal by its id, or for a listing, page by page in ascending order. -/
structure Attests (w : Wallet) (node : Node σ) (P : σ → Prop) (L : Ledger) : Prop where
  keeps : node.Keeps P
  threshold : node.Tells P w.multisig thresholdQuery Threshold.read? L.threshold
  members : w.members.Served node P w.pageSize.toNat L.members
  proposal : ∀ id p, L.proposal? id = some p →
    node.Tells P w.multisig (proposalQuery id) ProposalRecord.read? p
  votes : ∀ id, (w.votes id).Served node P w.pageSize.toNat (L.votes id)

structure Reports (w : Wallet) (node : Node σ) (P : σ → Prop) (L : Ledger) : Prop
    extends w.Attests node P L where
  recent : node.Tells P w.multisig w.recentQuery ProposalRecord.readPage?
    (L.proposals.reverse.take w.pageSize.toNat)

theorem fullPage_eq (h : 0 < w.pageSize.toNat) : w.fullPage = w.pageSize.toNat :=
  max_eq_right h

/-! ### The parts of a resolution -/

theorem ends_fetchMultisig_listed {threshold : Threshold} {found : List Member} {required : UInt64}
    (hkeeps : node.Keeps P)
    (hthreshold : node.Tells P w.multisig thresholdQuery Threshold.read? threshold)
    (hrequired : threshold.required = .ok required)
    (hlist : (w.members.all w.patience).Ends node P (.done found)) :
    w.fetchMultisig.Ends node P
      (.done ⟨w.multisig, w.group, found.map Member.address, required⟩) := by
  refine ((ends_ask hkeeps hthreshold).mapError _).bind ((hlist.mapError _).bind ?_)
  rw [hrequired]
  exact ends_done _

theorem ends_fetchMultisig {threshold : Threshold} {members : List Member} {required : UInt64}
    (hkeeps : node.Keeps P)
    (hthreshold : node.Tells P w.multisig thresholdQuery Threshold.read? threshold)
    (hrequired : threshold.required = .ok required)
    (hmembers : w.members.Served node P w.pageSize.toNat members) (hpage : 0 < w.pageSize.toNat)
    (hdiffer : (members.map Member.address).Nodup) (hpatience : members.length < w.patience) :
    w.fetchMultisig.Ends node P (.done ⟨w.multisig, w.group,
      (members.map Member.address).insertionSort (· ≤ ·), required⟩) := by
  have howners : (w.members.ordered members).map Member.address =
      (members.map Member.address).insertionSort (· ≤ ·) :=
    List.map_insertionSort _ _ _ _ fun _ _ _ _ => Iff.rfl
  have hfull : w.members.fullPage = w.pageSize.toNat := fullPage_eq hpage
  have hlist := Listing.ends_all hkeeps (hfull ▸ hmembers) (hfull ▸ hpage) hdiffer w.patience
  rw [if_pos (lt_of_le_of_lt (Nat.div_le_self _ _) hpatience)] at hlist
  rw [← howners]
  exact ends_fetchMultisig_listed hkeeps hthreshold hrequired hlist

theorem ends_fetchApprovers {id : UInt64} {votes : List VoteRecord} (hkeeps : node.Keeps P)
    (hvotes : (w.votes id).Served node P w.pageSize.toNat votes) (hpage : 0 < w.pageSize.toNat)
    (honce : (votes.map VoteRecord.voter).Nodup) :
    (w.fetchApprovers id).Ends node P
      (if votes.length / w.pageSize.toNat < w.patience then .done (VoteRecord.approvers votes)
        else .stalled) := by
  have hfull : (w.votes id).fullPage = w.pageSize.toNat := fullPage_eq hpage
  have hlist := Listing.ends_all hkeeps (hfull ▸ hvotes) (hfull ▸ hpage) honce w.patience
  rw [hfull] at hlist
  rw [fetchApprovers]
  by_cases hpatience : votes.length / w.pageSize.toNat < w.patience
  · have hperm := (((w.votes id).ordered_perm votes).filter (·.vote == .yes)).map VoteRecord.voter
    have hyes : ((votes.filter (·.vote == .yes)).map VoteRecord.voter).Nodup :=
      honce.sublist (List.filter_sublist.map _)
    have hroster : Roster.ofList ((((w.votes id).ordered votes).filter (·.vote == .yes)).map
        VoteRecord.voter) = VoteRecord.approvers votes :=
      Roster.ofList_eq_insertionSort hperm (hperm.nodup_iff.2 hyes)
    rw [if_pos hpatience] at hlist ⊢
    refine (hlist.mapError _).bind ?_
    rw [hroster]
    exact ends_done _
  · rw [if_neg hpatience] at hlist ⊢
    exact (hlist.mapError _).bind_stalled

theorem ends_snapshot {p : ProposalRecord} {votes : List VoteRecord} {stored : List StoredMessage}
    (hkeeps : node.Keeps P) (hvotes : (w.votes p.id).Served node P w.pageSize.toNat votes)
    (hpage : 0 < w.pageSize.toNat) (honce : (votes.map VoteRecord.voter).Nodup)
    (hpatience : votes.length < w.patience)
    (hstored : p.messages.mapM StoredMessage.ofJson = .ok stored) :
    (w.snapshot p).Ends node P
      (.done ⟨p.id, p.status, VoteRecord.approvers votes, stored⟩) := by
  have happrovers := ends_fetchApprovers hkeeps hvotes hpage honce
  rw [if_pos (lt_of_le_of_lt (Nat.div_le_self _ _) hpatience)] at happrovers
  rw [snapshot, hstored]
  exact ((ends_ofExcept_ok stored).mapError _).bind (happrovers.bind (ends_done _))

theorem ends_fetchProposal {id : UInt64} {p : ProposalRecord} {o : Outcome ResolveError Snapshot}
    (hkeeps : node.Keeps P)
    (hproposal : node.Tells P w.multisig (proposalQuery id) ProposalRecord.read? p)
    (hsnapshot : (w.snapshot p).Ends node P o) : (w.fetchProposal id).Ends node P o :=
  ((ends_ask hkeeps hproposal).mapError _).bind hsnapshot

theorem ends_findOpen {page : List ProposalRecord} {candidate : StoredMessage}
    {p : ProposalRecord} {s : Snapshot} (hkeeps : node.Keeps P)
    (hrecent : node.Tells P w.multisig w.recentQuery ProposalRecord.readPage? page)
    (hselect : selectOpen candidate page = .ok (some p))
    (hsnapshot : (w.snapshot p).Ends node P (.done s)) :
    (w.findOpen candidate).Ends node P (.done (some s)) := by
  refine ((ends_ask hkeeps hrecent).mapError _).bind ?_
  rw [hselect]
  exact ((ends_ofExcept_ok (some p)).mapError _).bind (hsnapshot.bind (ends_done _))

/-! ### The resolution as a whole -/

def lookup (w : Wallet) (id : Option UInt64) (candidate : StoredMessage) :
    Dialogue ResolveError (Option Snapshot) :=
  match id with
  | some id => some <$> w.fetchProposal id
  | none => w.findOpen candidate

def conclude (multisig : MultisigState) (snapshot : Option Snapshot) (candidate : StoredMessage)
    (signer : String) : Except ResolveError Resolution :=
  (nextAction snapshot multisig.threshold candidate
    (snapshot.any fun s => s.approvers.contains signer)).map
    fun action => { multisig, proposal := stateOf multisig.threshold snapshot action }

theorem resolve_eq (w : Wallet) (id : Option UInt64) (candidate : Message) (signer : String) :
    w.resolve id candidate signer =
      (ofExcept candidate.normalize).mapError .incomparable >>= fun m =>
        w.fetchMultisig >>= fun multisig => w.lookup id m >>= fun snapshot =>
          ofExcept (conclude multisig snapshot m signer) := by
  have hlast : ∀ (r : Except ResolveError NextAction) (f : NextAction → Resolution),
      (ofExcept r >>= fun action => pure (f action)) = ofExcept (r.map f) := by
    intro r f
    cases r <;> rfl
  rw [resolve]
  simp only [hlast]
  cases id <;> rfl

end Wallet
end Countersign
