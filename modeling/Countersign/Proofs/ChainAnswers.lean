import Countersign.Node.Chain
import Countersign.Proofs.Candidate
import Countersign.Proofs.Ledger
import Mathlib

/-! The chain held in memory as a node that a wallet reads: its JSON records stand for a ledger, and
its answers are those of that ledger. -/

namespace Countersign

open Dialogue

theorem Text.word64?_toString (n : UInt64) :
    word64? (trimmed (toString n).toList) = some n := by
  have htext : (toString n).toList = Nat.toDigits 10 n.toNat := String.toList_ofList
  have hdigit := isDigit_toDigits n.toNat
  have hvalue := Nat.ofDigitChars_ten_toDigits (n := n.toNat)
  have hne : Nat.toDigits 10 n.toNat ≠ [] := Nat.toDigits_ne_nil
  have hbound := n.toNat_lt
  rw [htext, trimmed_eq_self fun c hc => isBlank_of_isDigit (hdigit c hc)]
  generalize Nat.toDigits 10 n.toNat = cs at *
  have hplus : ∀ rest, cs ≠ '+' :: rest := by
    rintro rest rfl
    exact absurd (hdigit '+' (by simp)) (by decide)
  rw [word64?, below?, if_neg (by simpa using hne), mapM_digit? hdigit, Option.bind_some,
    ofDigits_values, hvalue, if_pos hbound, Option.map_some, UInt64.ofNat_toNat]
  exact hplus

theorem toString_injective : Function.Injective (toString : UInt64 → String) := by
  intro a b h
  have ha := Text.word64?_toString a
  rw [h, Text.word64?_toString] at ha
  exact (Option.some.inj ha).symm

namespace Json

theorem word64?_ofNat_toNat (n : UInt64) : (ofNat n.toNat).word64? = some n := by
  have hn : (n.toNat : Int) < 2 ^ (64 : Nat) := by exact_mod_cast n.toNat_lt
  rw [ofNat, word64?, if_pos ⟨by omega, hn⟩]
  simp

theorem word64?_ofNat_word32 (n : UInt32) : (ofNat n.toNat).word64?.map UInt64.toNat = some n.toNat := by
  have hn : n.toNat < 2 ^ 32 := n.toNat_lt
  simpa using congrArg (Option.map UInt64.toNat) (word64?_ofNat_toNat n.toUInt64)

end Json

namespace Chain

/-- An entry of a listing that reads as `a` and that the chain files under its key. -/
def Listed {α : Type} (read : Json → Option α) (field : String) (key : α → String) (v : Json)
    (a : α) : Prop :=
  read v = some a ∧ (v.getD field).text? = some (key a)

structure Records (c : Chain) (L : Ledger) : Prop where
  threshold : Threshold.read? c.threshold = some L.threshold
  members : List.Forall₂ (Listed Member.read? "addr" Member.address) c.members L.members
  proposals : List.Forall₂ (fun v p => ProposalRecord.read? v = some p ∧ idOf v = some p.id)
    c.proposals L.proposals
  votes : ∀ id, List.Forall₂ (Listed VoteRecord.read? "voter" VoteRecord.voter) (c.votesOn id)
    (L.votes id)

/-! ### Pages -/

section pages

variable {α : Type} {read : Json → Option α} {field : String} {l : Listing α}

theorem forall₂_place {v : Json} {a : α} {vs : List Json} {as : List α}
    (h : Listed read field l.key v a) (hs : List.Forall₂ (Listed read field l.key) vs as) :
    List.Forall₂ (Listed read field l.key) (place field v vs)
      (as.orderedInsert (fun a b => l.key a ≤ l.key b) a) := by
  induction hs with
  | nil => exact .cons h .nil
  | @cons v' a' vs as h' hs ih =>
    have hle : keyLE ((v.getD field).text?) ((v'.getD field).text?) = decide (l.key a ≤ l.key a') := by
      rw [h.2, h'.2, keyLE, ← decide_not]
      exact decide_eq_decide.2 not_lt
    rw [place, hle, List.orderedInsert]
    by_cases hka : l.key a ≤ l.key a'
    · rw [decide_eq_true hka, if_pos rfl, if_pos hka]
      exact .cons h (.cons h' hs)
    · rw [decide_eq_false hka, if_neg Bool.false_ne_true, if_neg hka]
      exact .cons h' ih

theorem forall₂_sortBy {vs : List Json} {as : List α}
    (h : List.Forall₂ (Listed read field l.key) vs as) :
    List.Forall₂ (Listed read field l.key) (sortBy field vs) (l.ordered as) := by
  induction h with
  | nil => exact .nil
  | cons h hs ih => exact forall₂_place h ih

theorem forall₂_page {vs : List Json} {as : List α} {body : Json} {limit : ℕ}
    {cursor : Option String} (h : List.Forall₂ (Listed read field l.key) vs as)
    (hlimit : (body.getD "limit").word64?.map UInt64.toNat = some limit)
    (hcursor : (body.getD "start_after").text? = cursor) :
    List.Forall₂ (Listed read field l.key) (page field vs body)
      ((l.rest as cursor).take limit) := by
  rw [page, hlimit, hcursor]
  refine List.forall₂_take _ (List.rel_filter ?_ (forall₂_sortBy h))
  rintro v a ⟨-, hkey⟩
  simp only [hkey]
  cases cursor <;> simp [isAfter]

theorem readPage_page {vs : List Json} {as : List α}
    (h : List.Forall₂ (Listed read field l.key) vs as) : vs.mapM read = some as :=
  mapM_eq_some_iff.2 (h.imp fun _ _ h => h.1)

end pages

/-! ### Answers -/

variable {c : Chain} {w : Wallet}

theorem keeps (c : Chain) : node.Keeps (· = c) :=
  fun _ _ _ h => h

theorem tells_of_answer {α : Type} {contract : String} {question : Json} {read : Json → Option α}
    {v : Json} {a : α} (hv : c.answer question = .ok v) (ha : read v = some a) :
    node.Tells (· = c) contract question read a :=
  fun _ hs => hs ▸ ⟨v, hv, ha⟩

theorem tells_threshold {t : Threshold} (contract : String)
    (h : Threshold.read? c.threshold = some t) :
    node.Tells (· = c) contract Wallet.thresholdQuery Threshold.read? t :=
  tells_of_answer rfl h

theorem served_members {members : List Member}
    (h : List.Forall₂ (Listed Member.read? "addr" Member.address) c.members members) :
    w.members.Served node (· = c) w.pageSize.toNat members := by
  intro cursor
  refine tells_of_answer rfl (readPage_page (l := w.members) (forall₂_page h ?_ ?_))
  · cases cursor <;> exact Json.word64?_ofNat_word32 w.pageSize
  · cases cursor <;> rfl

theorem answer_votes (c : Chain) (w : Wallet) (id : UInt64) (cursor : Option String) :
    c.answer ((w.votes id).question cursor) = .ok (.ofEntries [("votes", .list
      (page "voter" (c.votesOn id) (((w.votes id).question cursor).getD "list_votes")))]) := by
  have hid : ((((w.votes id).question cursor).getD "list_votes").getD "proposal_id").word64? =
      some id := by
    cases cursor <;> exact Json.word64?_ofNat_toNat id
  change c.answerTo "list_votes" (((w.votes id).question cursor).getD "list_votes") = _
  simp only [answerTo, hid, Option.getD_some]

theorem served_votes {id : UInt64} {votes : List VoteRecord}
    (h : List.Forall₂ (Listed VoteRecord.read? "voter" VoteRecord.voter) (c.votesOn id) votes) :
    (w.votes id).Served node (· = c) w.pageSize.toNat votes := by
  intro cursor
  refine tells_of_answer (answer_votes c w id cursor)
    (readPage_page (l := w.votes id) (forall₂_page h ?_ ?_))
  · cases cursor <;> exact Json.word64?_ofNat_word32 w.pageSize
  · cases cursor <;> rfl

theorem answer_proposal (c : Chain) (id : UInt64) :
    c.answer (Wallet.proposalQuery id) =
      match c.proposal? id with
      | some p => .ok p
      | none => .error (.notFound s!"proposal {id}") := by
  have hid : (((Wallet.proposalQuery id).getD "proposal").getD "proposal_id").word64? = some id :=
    Json.word64?_ofNat_toNat id
  change c.answerTo "proposal" ((Wallet.proposalQuery id).getD "proposal") = _
  cases hfound : c.proposal? id <;> simp only [answerTo, hid, Option.getD_some, hfound]

theorem tells_proposal {id : UInt64} {v : Json} {p : ProposalRecord} (contract : String)
    (h : c.proposal? id = some v) (hread : ProposalRecord.read? v = some p) :
    node.Tells (· = c) contract (Wallet.proposalQuery id) ProposalRecord.read? p :=
  tells_of_answer (by rw [answer_proposal, h]) hread

theorem answer_recent (c : Chain) (w : Wallet) :
    c.answer w.recentQuery =
      .ok (.ofEntries [("proposals", .list (c.proposals.reverse.take w.pageSize.toNat))]) := by
  have hlimit : ((w.recentQuery.getD "reverse_proposals").getD "limit").word64?.map UInt64.toNat =
      some w.pageSize.toNat :=
    Json.word64?_ofNat_word32 w.pageSize
  change c.answerTo "reverse_proposals" (w.recentQuery.getD "reverse_proposals") = _
  simp only [answerTo, hlimit, Option.getD_some]

theorem tells_recent {page : List ProposalRecord}
    (h : (c.proposals.reverse.take w.pageSize.toNat).mapM ProposalRecord.read? = some page) :
    node.Tells (· = c) w.multisig w.recentQuery ProposalRecord.readPage? page :=
  tells_of_answer (answer_recent c w) h

theorem find?_record {vs : List Json} {ps : List ProposalRecord}
    (h : List.Forall₂ (fun v p => ProposalRecord.read? v = some p ∧ idOf v = some p.id) vs ps)
    {id : UInt64} {p : ProposalRecord} (hp : ps.find? (·.id == id) = some p) :
    ∃ v, vs.find? (idOf · == some id) = some v ∧ ProposalRecord.read? v = some p := by
  induction h with
  | nil => simp at hp
  | @cons v q vs qs hvq hs ih =>
    have hsame : (idOf v == some id) = (q.id == id) := by simp [hvq.2]
    rw [List.find?_cons] at hp ⊢
    rw [hsame]
    cases hq : q.id == id with
    | true =>
      rw [hq] at hp
      exact ⟨v, rfl, Option.some.inj hp ▸ hvq.1⟩
    | false => exact ih (by simpa only [hq] using hp)

theorem gives_page (c : Chain) (w : Wallet) :
    (ask w.multisig w.recentQuery ProposalRecord.readPage?).Meets node (· = c)
      (·.Gives fun page =>
        (c.proposals.reverse.take w.pageSize.toNat).mapM ProposalRecord.read? = some page) := by
  refine gives_ask (keeps c) ?_
  rintro s rfl v page hv hread
  replace hv : s.answer w.recentQuery = .ok v := hv
  rw [answer_recent] at hv
  cases hv
  exact hread

theorem reports {L : Ledger} (h : c.Records L) (w : Wallet) : w.Reports node (· = c) L where
  keeps := keeps c
  threshold := tells_threshold w.multisig h.threshold
  members := served_members h.members
  proposal id p hp := by
    obtain ⟨v, hv, hread⟩ := find?_record h.proposals hp
    exact tells_proposal w.multisig hv hread
  recent := tells_recent <| mapM_eq_some_iff.2 <|
    List.forall₂_take _ (List.rel_reverse (h.proposals.imp fun _ _ h => h.1))
  votes id := served_votes (h.votes id)

end Chain

/-! ### Chains for a ledger -/

theorem Record.word64?_ofNat (n : UInt64) : Record.word64? (Json.ofNat n.toNat) = some n := by
  have hn : n.toNat < 2 ^ (64 : Nat) := n.toNat_lt
  change (Record.below? (2 ^ (64 : Nat)) (Json.int n.toNat)).map UInt64.ofNat = some n
  simp only [Record.below?, Source.shape, Json.shape, Int.natCast_nonneg, if_true, Int.toNat_natCast,
    hn, Option.map_some, UInt64.ofNat_toNat]

def Threshold.toJson : Threshold → Json
  | .absoluteCount weight =>
    .ofEntries [("absolute_count", .ofEntries [("weight", .ofNat weight.toNat)])]
  | .absolutePercentage percentage total =>
    .ofEntries [("absolute_percentage", .ofEntries [
      ("percentage", .text percentage), ("total_weight", .ofNat total.toNat)])]
  | .quorum =>
    .ofEntries [("threshold_quorum", .ofEntries [
      ("threshold", .text "0.5"), ("quorum", .text "0.5"), ("total_weight", .ofNat 1)])]

theorem Threshold.read?_toJson (t : Threshold) : read? t.toJson = some t := by
  cases t with
  | absoluteCount weight =>
    change (Record.word64? (Json.ofNat weight.toNat)).bind (fun n => some (absoluteCount n)) = _
    rw [Record.word64?_ofNat, Option.bind_some]
  | absolutePercentage percentage total =>
    change (Record.word64? (Json.ofNat total.toNat)).bind
      (fun n => some (absolutePercentage percentage n)) = _
    rw [Record.word64?_ofNat, Option.bind_some]
  | quorum => rfl

def Vote.name : Vote → String
  | .yes => "yes"
  | .no => "no"
  | .abstain => "abstain"
  | .veto => "veto"

def VoteRecord.toJson (v : VoteRecord) : Json :=
  .ofEntries [
    ("voter", .text v.voter), ("vote", .text v.vote.name), ("weight", .ofNat v.weight.toNat)]

theorem VoteRecord.read?_toJson (v : VoteRecord) : read? v.toJson = some v := by
  have hvote : Vote.read? (.text v.vote.name) = some v.vote := by
    cases v.vote <;> rfl
  change (Vote.read? (.text v.vote.name)).bind (fun vote =>
    (Record.word64? (Json.ofNat v.weight.toNat)).bind fun n => some (mk v.voter vote n)) = _
  rw [hvote, Record.word64?_ofNat, Option.bind_some, Option.bind_some]

def Member.toJson (m : Member) : Json :=
  .ofEntries [("addr", .text m.address), ("weight", .ofNat m.weight.toNat)]

theorem Member.read?_toJson (m : Member) : read? m.toJson = some m := by
  change (Record.word64? (Json.ofNat m.weight.toNat)).bind (fun n => some (mk m.address n)) = _
  rw [Record.word64?_ofNat, Option.bind_some]

def ProposalRecord.toJson (p : ProposalRecord) : Json :=
  .ofEntries [
    ("id", .ofNat p.id.toNat),
    ("title", .text p.title),
    ("description", .text p.description),
    ("msgs", .list p.messages),
    ("status", p.status.toJson)]

theorem ProposalRecord.read?_toJson (p : ProposalRecord) : read? p.toJson = some p := by
  have hmessages : Record.list? some (Json.list p.messages) = some p.messages :=
    mapM_eq_some_iff.2 (List.forall₂_same.2 fun _ _ => rfl)
  have hstatus : ProposalStatus.read? p.status.toJson = some p.status :=
    ProposalStatus.ofName?_name p.status
  change (Record.word64? (Json.ofNat p.id.toNat)).bind (fun id =>
    (Record.list? some (Json.list p.messages)).bind fun messages =>
      (ProposalStatus.read? p.status.toJson).bind fun status =>
        some (mk id p.title p.description messages status)) = _
  rw [Record.word64?_ofNat, hmessages, hstatus]
  rfl

namespace Chain

theorem idOf_toJson (p : ProposalRecord) : idOf p.toJson = some p.id :=
  Json.word64?_ofNat_toNat p.id

def ofLedger (L : Ledger) : Chain where
  threshold := L.threshold.toJson
  members := L.members.map Member.toJson
  proposals := L.proposals.map ProposalRecord.toJson
  votes := L.proposals.map fun p => (toString p.id, (L.votes p.id).map VoteRecord.toJson)

theorem votesOn_ofLedger {L : Ledger} (h : ∀ id, (∀ p ∈ L.proposals, p.id ≠ id) → L.votes id = [])
    (id : UInt64) : (ofLedger L).votesOn id = (L.votes id).map VoteRecord.toJson := by
  have hlookup : ∀ ps : List ProposalRecord,
      (ps.map fun p => (toString p.id, (L.votes p.id).map VoteRecord.toJson)).lookup (toString id) =
        if ∃ p ∈ ps, p.id = id then some ((L.votes id).map VoteRecord.toJson) else none := by
    intro ps
    induction ps with
    | nil => simp
    | cons p ps ih =>
      by_cases hp : p.id = id
      · simp [hp]
      · have hne : (toString id == toString p.id) = false :=
          beq_false_of_ne fun he => hp (toString_injective he).symm
        simp only [List.map_cons, List.lookup_cons, hne, ih, List.exists_mem_cons_iff, hp,
          false_or]
  rw [votesOn, Keyed.get?, ofLedger, hlookup]
  split
  · rfl
  · next hnone =>
    rw [h id fun p hp he => hnone ⟨p, hp, he⟩]
    rfl

theorem records_ofLedger {L : Ledger}
    (h : ∀ id, (∀ p ∈ L.proposals, p.id ≠ id) → L.votes id = []) : (ofLedger L).Records L where
  threshold := L.threshold.read?_toJson
  members := List.forall₂_map_left_iff.2 <| List.forall₂_same.2 fun m _ => ⟨m.read?_toJson, rfl⟩
  proposals := List.forall₂_map_left_iff.2 <| List.forall₂_same.2 fun p _ =>
    ⟨p.read?_toJson, idOf_toJson p⟩
  votes id := by
    rw [votesOn_ofLedger h]
    exact List.forall₂_map_left_iff.2 <| List.forall₂_same.2 fun v _ => ⟨v.read?_toJson, rfl⟩

theorem records_of_member {L : Ledger} {p : ProposalRecord} (hp : p ∈ L.proposals)
    (h : ∀ id, id ≠ p.id → L.votes id = []) : (ofLedger L).Records L :=
  records_ofLedger fun id hid => h id (hid p hp).symm

end Chain
end Countersign
