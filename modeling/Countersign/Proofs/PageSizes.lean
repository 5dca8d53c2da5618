import Countersign.Proofs.Agreement
import Mathlib

/-! Resolving a proposal by its id with pages of different sizes. All sizes lead to one decision but the
size zero, with which no member and no vote is ever read. -/

namespace Countersign

namespace Dialogue

variable {σ ε ε' α β : Type} {node : Node σ} {P : σ → Prop}

def Concur (node : Node σ) (P : σ → Prop) (d d' : Dialogue ε α) : Prop :=
  ∀ s t, P s → P t → P (d.play node s).state ∧ P (d'.play node t).state ∧
    (d.play node s).outcome = (d'.play node t).outcome

theorem Ends.concur {d d' : Dialogue ε α} {o : Outcome ε α} (h : d.Ends node P o)
    (h' : d'.Ends node P o) : d.Concur node P d' :=
  fun s t hs ht => ⟨(h s hs).1, (h' t ht).1, (h s hs).2.trans (h' t ht).2.symm⟩

theorem AsksOnly.concur {d : Dialogue ε α} (hd : d.AsksOnly) (hsteady : node.Steady P) :
    d.Concur node P d :=
  fun s t hs ht => ⟨(hd.meets hsteady.keeps s hs).1, (hd.meets hsteady.keeps t ht).1,
    (hd.play_eq hsteady hs ht).1⟩

theorem Concur.bind {d d' : Dialogue ε α} {f f' : α → Dialogue ε β} (hd : d.Concur node P d')
    (hf : ∀ a, (f a).Concur node P (f' a)) : (d >>= f).Concur node P (d' >>= f') := by
  intro s t hs ht
  obtain ⟨hs', ht', hends⟩ := hd s t hs ht
  simp only [play_bind, Play.bind, ← hends]
  cases (d.play node s).outcome with
  | done a => exact hf a _ _ hs' ht'
  | failed e => exact ⟨hs', ht', rfl⟩
  | stalled => exact ⟨hs', ht', rfl⟩

theorem Concur.mapError {d d' : Dialogue ε α} (hd : d.Concur node P d') (f : ε → ε') :
    (d.mapError f).Concur node P (d'.mapError f) := by
  intro s t hs ht
  obtain ⟨hs', ht', hends⟩ := hd s t hs ht
  simp only [play_mapError]
  exact ⟨hs', ht', congrArg _ hends⟩

end Dialogue

namespace Wallet

open Dialogue

variable {σ : Type} {node : Node σ} {P : σ → Prop} {w : Wallet} {owners : List Member}
  {ballots : UInt64 → List VoteRecord}

def sized (w : Wallet) (size : UInt32) : Wallet :=
  { w with pageSize := size }

def decision (w : Wallet) (node : Node σ) (s : σ) (id : UInt64) (candidate : Message)
    (signer : String) : Outcome ResolveError Resolution :=
  ((w.resolve (some id) candidate signer).play node s).outcome

/-- In the states in `P` equal queries are answered equally, and whatever number of entries a page may
have, members and votes are listed in ascending order. -/
structure Lists (w : Wallet) (node : Node σ) (P : σ → Prop) (owners : List Member)
    (ballots : UInt64 → List VoteRecord) : Prop where
  steady : node.Steady P
  members : ∀ size, (w.sized size).members.Served node P size.toNat owners
  votes : ∀ size id, ((w.sized size).votes id).Served node P size.toNat (ballots id)
  differ : (owners.map Member.address).Nodup
  once : ∀ id, ((ballots id).map VoteRecord.voter).Nodup

variable {a b : UInt32}

theorem toNat_pos (ha : a ≠ 0) : 0 < a.toNat :=
  Nat.pos_of_ne_zero fun h => ha (UInt32.toNat_inj.1 h)

theorem ends_listing {α : Type} {l : Listing α} {entries : List α} (hsteady : node.Steady P)
    (hserved : l.Served node P a.toNat entries) (hfull : l.fullPage = (w.sized a).fullPage)
    (ha : a ≠ 0) (hkeys : (entries.map l.key).Nodup) (hpatience : entries.length < w.patience) :
    (l.all w.patience).Ends node P (.done (l.ordered entries)) := by
  have hpage : l.fullPage = a.toNat := hfull.trans (fullPage_eq (toNat_pos ha))
  have hall := Listing.ends_all hsteady.keeps (hpage ▸ hserved) (hpage ▸ toNat_pos ha) hkeys w.patience
  rwa [if_pos (lt_of_le_of_lt (Nat.div_le_self _ _) hpatience)] at hall

section nonzero

variable (hlists : w.Lists node P owners ballots) (ha : a ≠ 0) (hb : b ≠ 0)
include hlists ha hb

theorem concur_fetchMultisig (hpatience : owners.length < w.patience) :
    (w.sized a).fetchMultisig.Concur node P (w.sized b).fetchMultisig := by
  have hall := ends_listing (w := w) hlists.steady (hlists.members a) rfl ha hlists.differ hpatience
  have hall' := ends_listing (w := w) hlists.steady (hlists.members b) rfl hb hlists.differ hpatience
  have hthreshold := (asksOnly_ask w.multisig thresholdQuery Threshold.read?).concur hlists.steady
  refine (hthreshold.mapError _).bind fun threshold =>
    ((hall.concur hall').mapError _).bind fun found => ?_
  cases threshold.required with
  | ok required => exact (ends_done _).concur (ends_done _)
  | error kind => exact (ends_ofExcept (.error _)).concur (ends_ofExcept (.error _))

theorem concur_fetchApprovers (id : UInt64) (hpatience : (ballots id).length < w.patience) :
    ((w.sized a).fetchApprovers id).Concur node P ((w.sized b).fetchApprovers id) := by
  have hall := ends_listing (w := w) hlists.steady (hlists.votes a id) rfl ha (hlists.once id) hpatience
  have hall' := ends_listing (w := w) hlists.steady (hlists.votes b id) rfl hb (hlists.once id) hpatience
  exact ((hall.concur hall').mapError _).bind fun found => (ends_done _).concur (ends_done _)

theorem concur_fetchProposal (id : UInt64) (hpatience : ∀ id, (ballots id).length < w.patience) :
    ((w.sized a).fetchProposal id).Concur node P ((w.sized b).fetchProposal id) := by
  have hproposal := (asksOnly_ask w.multisig (proposalQuery id) ProposalRecord.read?).concur
    hlists.steady
  refine (hproposal.mapError _).bind fun p => ?_
  have hstored := ((asksOnly_ofExcept (p.messages.mapM StoredMessage.ofJson)).mapError
    (f := ResolveError.incomparable)).concur hlists.steady
  refine hstored.bind fun stored => ?_
  exact (concur_fetchApprovers hlists ha hb p.id (hpatience p.id)).bind fun approvers =>
    (ends_done _).concur (ends_done _)

theorem concur_resolve (howners : owners.length < w.patience)
    (hballots : ∀ id, (ballots id).length < w.patience) (id : UInt64) (candidate : Message)
    (signer : String) :
    ((w.sized a).resolve (some id) candidate signer).Concur node P
      ((w.sized b).resolve (some id) candidate signer) := by
  have hnormal := ((asksOnly_ofExcept candidate.normalize).mapError
    (f := ResolveError.incomparable)).concur hlists.steady
  rw [resolve_eq, resolve_eq]
  refine hnormal.bind fun m => (concur_fetchMultisig hlists ha hb howners).bind fun multisig => ?_
  have hlookup : ((w.sized a).lookup (some id) m).Concur node P ((w.sized b).lookup (some id) m) :=
    (concur_fetchProposal hlists ha hb id hballots).bind fun s => (ends_done _).concur (ends_done _)
  exact hlookup.bind fun snapshot => (ends_ofExcept _).concur (ends_ofExcept _)

theorem decision_eq (howners : owners.length < w.patience)
    (hballots : ∀ id, (ballots id).length < w.patience) {id : UInt64} {candidate : Message}
    {signer : String} {s : σ} (hs : P s) :
    (w.sized a).decision node s id candidate signer =
      (w.sized b).decision node s id candidate signer :=
  (concur_resolve hlists ha hb howners hballots id candidate signer s s hs hs).2.2

end nonzero

theorem lists_of_records {c : Chain} {L : Ledger} (h : c.Records L) (w : Wallet)
    (hdiffer : (L.members.map Member.address).Nodup)
    (honce : ∀ id, ((L.votes id).map VoteRecord.voter).Nodup) :
    w.Lists Chain.node (· = c) L.members L.votes where
  steady := ⟨Chain.keeps c, fun _ _ _ _ hs ht => by rw [hs, ht]⟩
  members size := (Chain.reports h (w.sized size)).members
  votes size id := (Chain.reports h (w.sized size)).votes id
  differ := hdiffer
  once := honce

end Wallet

theorem Ledger.divided_votes (id : UInt64) :
    ((Ledger.divided.votes id).map VoteRecord.voter).Nodup ∧ (Ledger.divided.votes id).length ≤ 3 := by
  by_cases hid : id = 1
  · subst hid
    decide +kernel
  · have hnone : Ledger.divided.votes id = [] := if_neg hid
    rw [hnone]
    exact ⟨List.nodup_nil, Nat.zero_le 3⟩

namespace Wallet

open Dialogue Rehearsal

theorem lists_divided : feedWallet.Lists Chain.node (· = .ofLedger .divided) Ledger.divided.members
    Ledger.divided.votes :=
  lists_of_records Ledger.records_divided feedWallet (by decide +kernel)
    fun id => (Ledger.divided_votes id).1

theorem patient_divided : Ledger.divided.members.length < feedWallet.patience ∧
    ∀ id, (Ledger.divided.votes id).length < feedWallet.patience :=
  ⟨by decide, fun id => lt_of_le_of_lt (Ledger.divided_votes id).2 (by decide)⟩

def dividedOutcome (size : UInt32) : Outcome ResolveError Resolution :=
  (feedWallet.sized size).decision Chain.node (.ofLedger .divided) 1 beginProposal.message "terra1alice"

def tally (r : Resolution) : List String × List String × NextAction :=
  (r.multisig.owners, r.proposal.approvers, r.proposal.action)

theorem dividedOutcome_zero :
    (dividedOutcome 0).result?.map tally = some ([], [], .approve) := by
  decide +kernel

theorem dividedOutcome_thirty :
    (dividedOutcome 30).result?.map tally =
      some (["terra1alice", "terra1bob", "terra1carol", "terra1dave"],
        ["terra1alice", "terra1bob"], .none) := by
  decide +kernel

theorem dividedOutcome_zero_ne {size : UInt32} (h : size ≠ 0) :
    dividedOutcome 0 ≠ dividedOutcome size := by
  have hthirty : dividedOutcome size = dividedOutcome 30 :=
    decision_eq lists_divided h (by decide) patient_divided.1 patient_divided.2 rfl
  intro hsame
  have hzero := dividedOutcome_zero
  rw [hsame, hthirty, dividedOutcome_thirty] at hzero
  exact absurd hzero (by decide)

/-- Two page sizes lead to one decision about every proposal of every chain exactly when both are zero or
neither is. -/
theorem page_sizes_iff (a b : UInt32) :
    (∀ {σ : Type} {node : Node σ} {P : σ → Prop} {w : Wallet} {owners : List Member}
        {ballots : UInt64 → List VoteRecord}, w.Lists node P owners ballots →
      owners.length < w.patience → (∀ id, (ballots id).length < w.patience) → ∀ s, P s →
        ∀ id candidate signer,
          (w.sized a).decision node s id candidate signer =
            (w.sized b).decision node s id candidate signer) ↔
      (a = 0 ↔ b = 0) := by
  constructor
  · intro hsame
    have hdivided : dividedOutcome a = dividedOutcome b :=
      hsame lists_divided patient_divided.1 patient_divided.2 _ rfl 1 _ _
    constructor
    · rintro rfl
      exact by_contra fun hb => dividedOutcome_zero_ne hb hdivided
    · rintro rfl
      exact by_contra fun ha => dividedOutcome_zero_ne ha hdivided.symm
  · intro hzero σ node P w owners ballots hlists howners hballots s hs id candidate signer
    by_cases ha : a = 0
    · rw [ha, hzero.1 ha]
    · exact decision_eq hlists ha (fun hb => ha (hzero.2 hb)) howners hballots hs

theorem page_sizes_one_thirty :
    dividedOutcome 1 = dividedOutcome 30 ∧
      (dividedOutcome 30).result?.map tally =
        some (["terra1alice", "terra1bob", "terra1carol", "terra1dave"],
          ["terra1alice", "terra1bob"], .none) := by
  have hsame : dividedOutcome 1 = dividedOutcome 30 :=
    (page_sizes_iff 1 30).2 (by decide) lists_divided patient_divided.1 patient_divided.2 _ rfl 1 _ _
  exact ⟨hsame, dividedOutcome_thirty⟩

/-- With pages of size zero nobody is found to be an owner or to have voted, so a member is asked to
vote once more. -/
theorem page_size_zero :
    feedWallet.Lists Chain.node (· = .ofLedger .divided) Ledger.divided.members
        Ledger.divided.votes ∧
      (dividedOutcome 0).result?.map tally = some ([], [], .approve) ∧
      dividedOutcome 0 ≠ dividedOutcome 30 :=
  ⟨lists_divided, dividedOutcome_zero, dividedOutcome_zero_ne (by decide)⟩

end Wallet
end Countersign
