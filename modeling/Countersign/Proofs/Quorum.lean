import Countersign.Proofs.Ballots
import Countersign.Proofs.Receipts
import Mathlib

/-! A quorum of runs on the chain held in memory. The first run makes a proposal, each run of another
signer adds an approval to it, and once as many signers approved as are required any run executes it.
Nothing else on the chain changes. -/

namespace Countersign

open Dialogue

theorem Keyed.alter_append {α : Type} {key : String} {m : Keyed α} (h : key ∉ m.keys)
    (fresh : α) (change : α → α) (n : Keyed α) :
    alter key fresh change (m ++ n) = m ++ alter key fresh change n := by
  induction m with
  | nil => rfl
  | cons e rest ih =>
    obtain ⟨k, v⟩ := e
    have hk : k ≠ key := fun he => h (he ▸ List.mem_cons_self)
    have hrest : key ∉ keys rest := fun hmem => h (List.mem_cons_of_mem _ hmem)
    rw [List.cons_append, alter, if_neg hk, ih hrest, List.cons_append]

theorem Keyed.alter_of_not_mem {α : Type} {key : String} {m : Keyed α} (h : key ∉ m.keys)
    (fresh : α) (change : α → α) : m.alter key fresh change = m ++ [(key, change fresh)] := by
  simpa only [List.append_nil, alter] using alter_append h fresh change []

theorem Keyed.get?_append {α : Type} {key : String} {m : Keyed α} (h : key ∉ m.keys)
    (n : Keyed α) : get? (m ++ n) key = n.get? key := by
  induction m with
  | nil => rfl
  | cons e rest ih =>
    obtain ⟨k, v⟩ := e
    have hk : (key == k) = false := beq_false_of_ne fun he => h (he ▸ List.mem_cons_self)
    have hrest : key ∉ keys rest := fun hmem => h (List.mem_cons_of_mem _ hmem)
    rw [List.cons_append, get?, List.lookup_cons, hk]
    exact ih hrest

namespace Chain

variable {c : Chain}

/-- The number of the next proposal is not in use yet, as when proposals are numbered in order. -/
structure Fresh (c : Chain) : Prop where
  proposals : ∀ v ∈ c.proposals, idOf v ≠ some c.next
  votes : toString c.next ∉ c.votes.keys

/-- Proposals are numbered from one in the order in which they were made, and there are votes on them
only. -/
structure Numbered (c : Chain) : Prop where
  proposals : c.proposals.map idOf =
    (List.range c.proposals.length).map fun i => some (UInt64.ofNat (i + 1))
  votes : ∀ key ∈ c.votes.keys, ∃ i < c.proposals.length, key = toString (UInt64.ofNat (i + 1))
  room : c.proposals.length + 1 < 2 ^ 64

theorem Numbered.fresh (h : c.Numbered) : c.Fresh := by
  have hnext : ∀ i < c.proposals.length, UInt64.ofNat (i + 1) ≠ c.next := by
    intro i hi heq
    have hroom := h.room
    have hsmall : i + 1 < 2 ^ 64 := by omega
    have hnumber := congrArg UInt64.toNat heq
    rw [next, UInt64.toNat_ofNat_of_lt' hsmall, UInt64.toNat_ofNat_of_lt' hroom] at hnumber
    omega
  constructor
  · intro v hv hid
    have hmem : some c.next ∈ c.proposals.map idOf := hid ▸ List.mem_map_of_mem hv
    rw [h.proposals] at hmem
    obtain ⟨i, hi, heq⟩ := List.mem_map.1 hmem
    exact hnext i (List.mem_range.1 hi) (Option.some.inj heq)
  · intro hmem
    obtain ⟨i, hi, heq⟩ := h.votes _ hmem
    exact hnext i hi (toString_injective heq).symm

def extended (c : Chain) (proposal : Json) (voters : List String) : Chain :=
  { c with
    proposals := c.proposals ++ [proposal]
    votes := c.votes ++ [(toString c.next, voters.map (ballot c.next))] }

/-! ### What the calls do -/

theorem propose_extended (h : c.Fresh) (signer contract : String) (call : Json) :
    (c.propose signer contract call).2 = c.extended (opened c.next call) [signer] := by
  rw [propose_eq, extended, Keyed.alter_of_not_mem h.votes]
  rfl

theorem vote_extended (h : c.Fresh) (proposal : Json) (voters : List String)
    (signer contract : String) :
    ((c.extended proposal voters).vote signer contract c.next).2 =
      c.extended proposal (voters ++ [signer]) := by
  rw [vote, addVote, extended, Keyed.push, Keyed.alter_append h.votes, Keyed.alter, if_pos rfl,
    extended, List.map_append]
  rfl

theorem proposal?_extended (h : c.Fresh) {proposal : Json} (hid : idOf proposal = some c.next)
    (voters : List String) : (c.extended proposal voters).proposal? c.next = some proposal := by
  have hnone : c.proposals.find? (fun p => idOf p == some c.next) = none :=
    List.find?_eq_none.2 fun v hv => by simpa using h.proposals v hv
  rw [proposal?, extended, List.find?_append, hnone, Option.none_or, List.find?_singleton, hid]
  simp

theorem markExecuted_concat {id : UInt64} {ps : List Json} (h : ∀ v ∈ ps, idOf v ≠ some id)
    {proposal : Json} (hid : idOf proposal = some id) :
    markExecuted id (ps ++ [proposal]) = ps ++ [setStatus (.text "executed") proposal] := by
  induction ps with
  | nil => simp [markExecuted, hid]
  | cons p rest ih =>
    obtain ⟨hp, hrest⟩ := List.forall_mem_cons.1 h
    rw [List.cons_append, markExecuted, if_neg hp, ih hrest, List.cons_append]

theorem execute_extended (h : c.Fresh) {proposal : Json} (hid : idOf proposal = some c.next)
    (voters : List String) (contract : String) :
    ∃ attributes, (c.extended proposal voters).execute contract c.next =
      (.ok (receipt attributes), c.extended (setStatus (.text "executed") proposal) voters) := by
  rw [execute, proposal?_extended h hid]
  refine ⟨_, congrArg (Prod.mk _) ?_⟩
  rw [extended, markExecuted_concat h.proposals hid]
  rfl

theorem votesOn_extended (h : c.Fresh) (proposal : Json) (voters : List String) :
    (c.extended proposal voters).votesOn c.next = voters.map (ballot c.next) := by
  rw [votesOn, extended, Keyed.get?_append h.votes, Keyed.get?, List.lookup_cons, beq_self_eq_true,
    Option.getD_some]

end Chain

/-! ### A run that submits -/

def RunReport.submitted? (r : RunReport) : Option (NextAction × Option UInt64) :=
  match r.outcome with
  | some (.submitted action _ id _) => some (action, id)
  | _ => none

namespace Chain

variable {c c' : Chain} {w : Wallet} {prepared : Prepared} {signer : String}

theorem play_submitted {id : Option UInt64} {r latest : Resolution} {body : Json}
    {receipt : TxReceipt} {pid : UInt64}
    (hresolve : (w.resolve id prepared.message signer).Ends node (· = c) (.done r))
    (haction : r.proposal.action ≠ .none)
    (hbody : (w.dispatcher .submit prepared).bodyFor r.proposal prepared.message = .ok body)
    (haccept : c.accept [.execute signer w.multisig body []] = (.ok receipt, c'))
    (hcode : receipt.code = 0) (hid : Dispatcher.reportedId r.proposal receipt = some pid)
    (hinspect : (w.inspect (some pid) (some signer)).Ends node (· = c') (.done latest)) :
    let play := (w.run .submit prepared signer id).play node c
    play.outcome.result?.bind RunReport.submitted? = some (r.proposal.action, some pid) ∧
      play.state = c' := by
  obtain ⟨data, hout⟩ := Dispatcher.outcomeOf_accepted (d := w.dispatcher .submit prepared)
    (p := r.proposal) hcode
  rw [hid] at hout
  have hsettle : (w.settle prepared signer r (.ok receipt)).Ends node (· = c') (.done {
      resolution := r
      outcome := some (.submitted r.proposal.action receipt.hash (some pid) data)
      after := some latest }) := by
    rw [Wallet.settle, Dispatcher.judge, hout]
    exact ((ends_ofExcept_ok _).mapError _).bind ((hinspect.mapError _).bind (ends_done _))
  obtain ⟨hkept, hdone⟩ := hresolve c rfl
  have hrun := Wallet.play_run_done hdone .submit
  dsimp only at hrun
  rw [hkept, Wallet.perform_submit haction hbody, play] at hrun
  have hreply : node.accept c [.execute signer w.multisig body []] = (.ok receipt, c') := haccept
  rw [hreply] at hrun
  obtain ⟨hlast, hreport⟩ := hsettle c' rfl
  intro p
  have houtcome : p.outcome = _ := (congrArg Play.outcome hrun).trans hreport
  have hstate : p.state = c' := (congrArg Play.state hrun).trans hlast
  rw [houtcome]
  exact ⟨rfl, hstate⟩

/-! ### What a run sees -/

/-- Whoever belongs to the group of these members has to find `required` of them to approve. -/
structure Governed (c : Chain) (w : Wallet) (members : List Member) (required : UInt64) : Prop where
  threshold : ∃ rule, Threshold.read? c.threshold = some rule ∧ rule.required = .ok required
  group : List.Forall₂ (Listed Member.read? "addr" Member.address) c.members members
  differ : (members.map Member.address).Nodup
  page : 1 ≤ w.pageSize
  patience : members.length < w.patience ∧ required.toNat < w.patience

def governance (w : Wallet) (members : List Member) (required : UInt64) : MultisigState :=
  ⟨w.multisig, w.group, (members.map Member.address).insertionSort (· ≤ ·), required⟩

variable {members : List Member} {required : UInt64}

theorem Governed.extended (h : c.Governed w members required) (proposal : Json)
    (voters : List String) : (c.extended proposal voters).Governed w members required :=
  ⟨h.threshold, h.group, h.differ, h.page, h.patience⟩

theorem Governed.size (h : c.Governed w members required) : 0 < w.pageSize.toNat :=
  UInt32.le_iff_toNat_le.1 h.page

theorem Governed.ends_fetchMultisig (h : c.Governed w members required) :
    w.fetchMultisig.Ends node (· = c) (.done (governance w members required)) := by
  obtain ⟨rule, hread, hrequired⟩ := h.threshold
  exact Wallet.ends_fetchMultisig (keeps c) (tells_threshold w.multisig hread) hrequired
    (served_members h.group) h.size h.differ h.patience.1

def proposed (c : Chain) (prepared : Prepared) (m : StoredMessage) (status : ProposalStatus) :
    ProposalRecord :=
  ⟨c.next, prepared.id, prepared.id, [m.toJson], status⟩

variable {m : StoredMessage} {status : ProposalStatus} {voters : List String}

def allYes (voters : List String) : List VoteRecord :=
  voters.map fun voter => ⟨voter, .yes, 1⟩

theorem approvers_allYes (voters : List String) :
    VoteRecord.approvers (allYes voters) = voters.insertionSort (· ≤ ·) := by
  have hfilter : (allYes voters).filter (·.vote == .yes) = allYes voters := by
    simp [allYes]
  have hvoters : (allYes voters).map VoteRecord.voter = voters := by
    simp [allYes, Function.comp_def]
  rw [VoteRecord.approvers, hfilter, hvoters]

def seen (c : Chain) (m : StoredMessage) (status : ProposalStatus) (voters : List String) :
    Snapshot :=
  ⟨c.next, status, voters.insertionSort (· ≤ ·), [m]⟩

theorem ends_snapshot_extended (hfresh : c.Fresh) (h : c.Governed w members required)
    (hdiffer : voters.Nodup) (hfew : voters.length ≤ required.toNat) :
    (w.snapshot (c.proposed prepared m status)).Ends node
      (· = c.extended (c.proposed prepared m status).toJson voters)
      (.done (c.seen m status voters)) := by
  have hlisted : List.Forall₂ (Listed VoteRecord.read? "voter" VoteRecord.voter)
      ((c.extended (c.proposed prepared m status).toJson voters).votesOn c.next)
      (allYes voters) := by
    rw [votesOn_extended hfresh]
    exact List.forall₂_map_left_iff.2 <| List.forall₂_map_right_iff.2 <|
      List.forall₂_same.2 fun voter _ => listed_ballot c.next voter
  have honce : ((allYes voters).map VoteRecord.voter).Nodup := by
    simpa [allYes, Function.comp_def] using hdiffer
  have hpatience : (allYes voters).length < w.patience := by
    rw [allYes, List.length_map]
    exact hfew.trans_lt h.patience.2
  have hstored : [m.toJson].mapM StoredMessage.ofJson = .ok [m] := by
    simp only [List.mapM_cons, List.mapM_nil, StoredMessage.ofJson_toJson]
    rfl
  have hsnapshot := Wallet.ends_snapshot (p := c.proposed prepared m status) (keeps _)
    (served_votes hlisted) h.size honce hpatience hstored
  rwa [approvers_allYes] at hsnapshot

theorem ends_inspect_extended (prepared : Prepared) (m : StoredMessage) (status : ProposalStatus)
    (hfresh : c.Fresh) (h : c.Governed w members required) (hdiffer : voters.Nodup)
    (hfew : voters.length ≤ required.toNat) (signer : String) :
    ∃ latest, (w.inspect (some c.next) (some signer)).Ends node
      (· = c.extended (c.proposed prepared m status).toJson voters) (.done latest) := by
  have hproposal := tells_proposal w.multisig
    (proposal?_extended hfresh (idOf_toJson _) voters)
    (c.proposed prepared m status).read?_toJson
  have hfetch := Wallet.ends_fetchProposal (keeps _) hproposal
    (ends_snapshot_extended hfresh h hdiffer hfew)
  have hsome : (some <$> w.fetchProposal c.next).Ends node _
      (.done (some (c.seen m status voters))) := hfetch.bind (ends_done _)
  rw [Wallet.inspect]
  exact ⟨_, (h.extended _ voters).ends_fetchMultisig.bind (hsome.bind (ends_done _))⟩

theorem recent_extended (p : ProposalRecord) (voters : List String) {limit : ℕ} (hlimit : 0 < limit)
    {page : List ProposalRecord}
    (hpage : (c.proposals.reverse.take limit).mapM ProposalRecord.read? = some page) :
    ((c.extended p.toJson voters).proposals.reverse.take limit).mapM ProposalRecord.read? =
      some (p :: page.take (limit - 1)) := by
  obtain ⟨size, rfl⟩ : ∃ size, limit = size + 1 := Nat.exists_eq_add_one_of_ne_zero hlimit.ne'
  have hlist : (c.extended p.toJson voters).proposals.reverse.take (size + 1) =
      p.toJson :: c.proposals.reverse.take size := by
    simp [extended]
  have hrest := List.forall₂_take size (mapM_eq_some_iff.1 hpage)
  rw [List.take_take, min_eq_left size.le_succ] at hrest
  rw [hlist, mapM_eq_some_iff]
  exact .cons (ProposalRecord.read?_toJson p) hrest

theorem selectOpen_proposed (c : Chain) (hm : prepared.message.normalize = .ok m)
    (older : List ProposalRecord) :
    Wallet.selectOpen m (c.proposed prepared m .open :: older) =
      .ok (some (c.proposed prepared m .open)) := by
  have hmatch := StoredMessage.messagesMatch_self (StoredMessage.canonicalizes_of_normalize hm)
  have hstored : (c.proposed prepared m .open).messages.mapM StoredMessage.ofJson = .ok [m] := by
    rw [proposed, List.mapM_cons, List.mapM_nil, StoredMessage.ofJson_toJson]
    rfl
  have hverdict : (c.proposed prepared m .open).verdict m = .ok true :=
    ProposalRecord.verdict_eq_true.2 ⟨rfl, [m], hstored, hmatch⟩
  rw [Wallet.selectOpen_cons, hverdict]
  rfl

theorem ends_findOpen_extended (hfresh : c.Fresh) (h : c.Governed w members required)
    (hdiffer : voters.Nodup) (hfew : voters.length ≤ required.toNat)
    (hm : prepared.message.normalize = .ok m) {page : List ProposalRecord}
    (hpage : (c.proposals.reverse.take w.pageSize.toNat).mapM ProposalRecord.read? = some page) :
    (w.findOpen m).Ends node (· = c.extended (c.proposed prepared m .open).toJson voters)
      (.done (some (c.seen m .open voters))) :=
  Wallet.ends_findOpen (keeps _) (tells_recent (recent_extended _ voters h.size hpage))
    (selectOpen_proposed c hm _) (ends_snapshot_extended hfresh h hdiffer hfew)

theorem readable_page {found : Option Snapshot}
    (h : ((w.findOpen m).play node c).outcome = .done found) :
    ∃ page, (c.proposals.reverse.take w.pageSize.toNat).mapM ProposalRecord.read? = some page := by
  have hsearch : (w.findOpen m).Meets node (· = c) (·.Gives fun _ => ∃ page,
      (c.proposals.reverse.take w.pageSize.toNat).mapM ProposalRecord.read? = some page) := by
    refine (gives_page c w).gives_mapError.bind_gives fun page hpage => ?_
    refine (asksOnly_ofExcept _).mapError.bind_gives (keeps c) fun found => ?_
    cases found with
    | none => exact meets_done fun _ _ => ⟨page, hpage⟩
    | some p =>
      exact (w.asksOnly_snapshot p).bind_gives (keeps c) fun s => meets_done fun _ _ => ⟨page, hpage⟩
  exact (hsearch c rfl).2 found h

/-! ### The three kinds of runs -/

theorem play_create (hfresh : c.Fresh) (h : c.Governed w members required) (hone : 1 ≤ required)
    (hm : prepared.message.normalize = .ok m)
    (hnone : ((w.findOpen m).play node c).outcome = .done none) (signer : String) :
    let play := (w.run .submit prepared signer none).play node c
    play.outcome.result?.bind RunReport.submitted? = some (.create, some c.next) ∧
      play.state = c.extended (c.proposed prepared m .open).toJson [signer] := by
  have hlookup : (w.lookup none m).Ends node (· = c) (.done none) := by
    rintro _ rfl
    exact ⟨((w.asksOnly_findOpen m).meets (keeps _) _ rfl).1, hnone⟩
  have hresolve : (w.resolve none prepared.message signer).Ends node (· = c)
      (.done ⟨governance w members required, .absent required⟩) :=
    Wallet.ends_resolve signer hm h.ends_fetchMultisig hlookup
  have hbody : (w.dispatcher .submit prepared).bodyFor (.absent required) prepared.message =
      .ok (MultisigCall.propose prepared.id prepared.id [m]).toJson := by
    simp only [Dispatcher.bodyFor, Dispatcher.confirm, ProposalState.absent, Dispatcher.callFor, hm]
    rfl
  have haccept := accept_propose c signer w.multisig prepared.id prepared.id [m]
  rw [propose_extended hfresh] at haccept
  have hid : Dispatcher.reportedId (.absent required) (c.propose signer w.multisig
      (proposalBody prepared.id prepared.id [m])).1 = some c.next := by
    rw [Dispatcher.reportedId, created?_propose]
    rfl
  obtain ⟨latest, hinspect⟩ := ends_inspect_extended prepared m .open hfresh h
    (List.nodup_singleton signer) (UInt64.le_iff_toNat_le.1 hone) signer
  exact play_submitted hresolve (fun hcreate => by cases hcreate) hbody haccept rfl hid hinspect

theorem ends_resolve_extended (hfresh : c.Fresh) (h : c.Governed w members required)
    (hdiffer : voters.Nodup) (hfew : voters.length ≤ required.toNat)
    (hm : prepared.message.normalize = .ok m) {page : List ProposalRecord}
    (hpage : (c.proposals.reverse.take w.pageSize.toNat).mapM ProposalRecord.read? = some page)
    {signer : String} {action : NextAction}
    (haction : (c.seen m .open voters).action required
      ((c.seen m .open voters).approvers.contains signer) = action) :
    (w.resolve none prepared.message signer).Ends node
      (· = c.extended (c.proposed prepared m .open).toJson voters)
      (.done ⟨governance w members required, .ofSnapshot (c.seen m .open voters) required action⟩) := by
  have hmatch := StoredMessage.messagesMatch_self (StoredMessage.canonicalizes_of_normalize hm)
  have hlookup : (w.lookup none m).Ends node _ _ :=
    ends_findOpen_extended hfresh h hdiffer hfew hm hpage
  have hend := Wallet.ends_resolve signer hm (h.extended _ voters).ends_fetchMultisig hlookup
  have hnext : nextAction (some (c.seen m .open voters)) required m
      ((c.seen m .open voters).approvers.contains signer) = .ok action :=
    nextAction_some.2 ⟨haction, fun _ => hmatch⟩
  rw [Wallet.conclude, Option.any_some, governance, hnext] at hend
  exact hend

theorem bodyFor_seen (hm : prepared.message.normalize = .ok m) {action : NextAction}
    {call : MultisigCall}
    (hcall : (w.dispatcher .submit prepared).callFor action (some c.next) prepared.message =
      .ok call) :
    (w.dispatcher .submit prepared).bodyFor (.ofSnapshot (c.seen m .open voters) required action)
      prepared.message = .ok call.toJson := by
  have hmatch := StoredMessage.messagesMatch_self (StoredMessage.canonicalizes_of_normalize hm)
  exact Dispatcher.bodyFor_ofSnapshot hm (fun _ => hmatch) hcall

theorem play_approve (hfresh : c.Fresh) (h : c.Governed w members required)
    (hdiffer : (voters ++ [signer]).Nodup) (hfew : voters.length < required.toNat)
    (hm : prepared.message.normalize = .ok m) {page : List ProposalRecord}
    (hpage : (c.proposals.reverse.take w.pageSize.toNat).mapM ProposalRecord.read? = some page) :
    let play := (w.run .submit prepared signer none).play node
      (c.extended (c.proposed prepared m .open).toJson voters)
    play.outcome.result?.bind RunReport.submitted? = some (.approve, some c.next) ∧
      play.state = c.extended (c.proposed prepared m .open).toJson (voters ++ [signer]) := by
  have hmore : (voters ++ [signer]).length ≤ required.toNat := by simpa using hfew
  obtain ⟨hvoters, -, hnew⟩ := List.nodup_append.1 hdiffer
  have haction : (c.seen m .open voters).action required
      ((c.seen m .open voters).approvers.contains signer) = .approve := by
    have hnot : signer ∉ voters := fun hmem => hnew signer hmem signer (by simp) rfl
    rw [Snapshot.action_eq_approve]
    refine ⟨.inr rfl, ?_, ?_⟩
    · rwa [seen, List.length_insertionSort]
    · simpa [seen] using hnot
  have hresolve := ends_resolve_extended hfresh h hvoters hfew.le hm hpage haction
  have haccept := accept_vote (c.extended (c.proposed prepared m .open).toJson voters) signer
    w.multisig c.next "yes"
  rw [vote_extended hfresh] at haccept
  obtain ⟨latest, hinspect⟩ := ends_inspect_extended prepared m .open hfresh h hdiffer hmore signer
  exact play_submitted hresolve nofun (bodyFor_seen hm rfl) haccept rfl rfl hinspect

theorem play_execute (hfresh : c.Fresh) (h : c.Governed w members required)
    (hdiffer : voters.Nodup) (hquorum : voters.length = required.toNat)
    (hm : prepared.message.normalize = .ok m) {page : List ProposalRecord}
    (hpage : (c.proposals.reverse.take w.pageSize.toNat).mapM ProposalRecord.read? = some page)
    (signer : String) :
    let play := (w.run .submit prepared signer none).play node
      (c.extended (c.proposed prepared m .open).toJson voters)
    play.outcome.result?.bind RunReport.submitted? = some (.execute, some c.next) ∧
      play.state = c.extended (c.proposed prepared m .executed).toJson voters := by
  have haction : (c.seen m .open voters).action required
      ((c.seen m .open voters).approvers.contains signer) = .execute := by
    rw [Snapshot.action_eq_execute]
    refine .inr ⟨.inr rfl, ?_⟩
    rw [seen, List.length_insertionSort, hquorum]
  have hresolve := ends_resolve_extended hfresh h hdiffer hquorum.le hm hpage haction
  have haccept := accept_execute (c.extended (c.proposed prepared m .open).toJson voters) signer
    w.multisig c.next
  obtain ⟨attributes, hexecute⟩ := execute_extended hfresh
    (idOf_toJson (c.proposed prepared m .open)) voters w.multisig
  rw [hexecute] at haccept
  obtain ⟨latest, hinspect⟩ := ends_inspect_extended prepared m .executed hfresh h hdiffer
    hquorum.le signer
  exact play_submitted hresolve nofun (bodyFor_seen hm rfl) haccept rfl rfl hinspect

/-! ### The whole quorum -/

def plays (c : Chain) (w : Wallet) : List Errand → List (Play Chain RunError RunReport)
  | [] => []
  | e :: rest =>
    let play := (w.run .submit e.prepared e.signer e.id).play node c
    play :: play.state.plays w rest

def submissions (c : Chain) (w : Wallet) (errands : List Errand) :
    List (Option (NextAction × Option UInt64)) :=
  (c.plays w errands).map fun play => play.outcome.result?.bind RunReport.submitted?

theorem submissions_cons (c : Chain) (w : Wallet) (e : Errand) (rest : List Errand) :
    let play := (w.run .submit e.prepared e.signer e.id).play node c
    c.submissions w (e :: rest) =
      play.outcome.result?.bind RunReport.submitted? :: play.state.submissions w rest := rfl

theorem after_cons (c : Chain) (w : Wallet) (e : Errand) (rest : List Errand) :
    c.after w (e :: rest) =
      ((w.run .submit e.prepared e.signer e.id).play node c).state.after w rest := rfl

/-- Approvals up to the required number, and then the execution. -/
theorem approve_and_execute (hfresh : c.Fresh) (h : c.Governed w members required)
    (hm : prepared.message.normalize = .ok m) {page : List ProposalRecord}
    (hpage : (c.proposals.reverse.take w.pageSize.toNat).mapM ProposalRecord.read? = some page)
    {signers : List String} (hdiffer : (voters ++ signers).Nodup)
    (hquorum : (voters ++ signers).length = required.toNat) (last : String) :
    let c' := c.extended (c.proposed prepared m .open).toJson voters
    let errands := signers.map (⟨prepared, ·, none⟩) ++ [⟨prepared, last, none⟩]
    c'.submissions w errands =
        List.replicate signers.length (some (.approve, some c.next)) ++
          [some (.execute, some c.next)] ∧
      c'.after w errands =
        c.extended (c.proposed prepared m .executed).toJson (voters ++ signers) := by
  intro c' errands
  induction signers generalizing voters with
  | nil =>
    rw [List.append_nil] at hdiffer hquorum ⊢
    obtain ⟨hreport, hstate⟩ := play_execute hfresh h hdiffer hquorum hm hpage last
    exact ⟨congrArg (· :: []) hreport, hstate⟩
  | cons signer signers ih =>
    have hsigners : voters ++ signer :: signers = voters ++ [signer] ++ signers :=
      List.append_cons ..
    rw [hsigners] at hdiffer hquorum ⊢
    have hfew : voters.length < required.toNat := by
      rw [← hquorum, List.length_append, List.length_append, List.length_singleton]
      omega
    have hdiffer' : (voters ++ [signer]).Nodup := (List.nodup_append.1 hdiffer).1
    obtain ⟨hreport, hstate⟩ := play_approve hfresh h hdiffer' hfew hm hpage
    obtain ⟨hrest, hafter⟩ := ih hdiffer hquorum
    have hsubmissions : c'.submissions w errands = _ := submissions_cons ..
    have hchain : c'.after w errands = _ := after_cons ..
    rw [hreport, hstate] at hsubmissions
    rw [hstate] at hchain
    exact ⟨hsubmissions.trans (congrArg _ hrest), hchain.trans hafter⟩

/-- As many signers as approvals are required, and then anyone: the first run makes a proposal, the
others approve it, and the last executes it. Afterwards the chain has that one proposal more, with one
vote of each signer, and everything else is as it was. -/
theorem quorum (hfresh : c.Fresh) (h : c.Governed w members required) (hone : 1 ≤ required)
    (hm : prepared.message.normalize = .ok m)
    (hnone : ((w.findOpen m).play node c).outcome = .done none) {signers : List String}
    (hdiffer : signers.Nodup) (hquorum : signers.length = required.toNat) (last : String) :
    let errands := signers.map (⟨prepared, ·, none⟩) ++ [⟨prepared, last, none⟩]
    c.submissions w errands =
        some (.create, some c.next) ::
          (List.replicate (required.toNat - 1) (some (.approve, some c.next)) ++
            [some (.execute, some c.next)]) ∧
      c.after w errands = { c with
        proposals := c.proposals ++
          [(ProposalRecord.mk c.next prepared.id prepared.id [m.toJson] .executed).toJson]
        votes := c.votes ++ [(toString c.next, signers.map (ballot c.next))] } := by
  intro errands
  obtain ⟨page, hpage⟩ := readable_page hnone
  cases signers with
  | nil =>
    have hzero : required.toNat = 0 := hquorum.symm
    exact absurd (UInt64.le_iff_toNat_le.1 hone) (by rw [hzero]; decide)
  | cons signer signers =>
    obtain ⟨hreport, hstate⟩ := play_create hfresh h hone hm hnone signer
    have hsigners : ([signer] ++ signers).Nodup := hdiffer
    obtain ⟨hrest, hafter⟩ := approve_and_execute hfresh h hm hpage hsigners hquorum last
    have hsubmissions : c.submissions w errands = _ := submissions_cons ..
    have hchain : c.after w errands = _ := after_cons ..
    rw [hreport, hstate] at hsubmissions
    rw [hstate] at hchain
    rw [← hquorum]
    exact ⟨hsubmissions.trans (congrArg _ hrest), hchain.trans hafter⟩

end Chain

def Ledger.settled : Ledger where
  threshold := .absoluteCount 2
  members := [⟨"terra1carol", 1⟩, ⟨"terra1alice", 1⟩, ⟨"terra1bob", 1⟩]
  proposals := [.beginProposal 1 .executed]
  votes id := if id = 1 then [⟨"terra1alice", .yes, 1⟩, ⟨"terra1bob", .yes, 1⟩] else []

theorem Ledger.records_settled : (Chain.ofLedger .settled).Records .settled :=
  Chain.records_of_member List.mem_cons_self fun _ hid => if_neg hid

open Rehearsal in
theorem Chain.quorum_settled :
    let w : Wallet := { feedWallet with pageSize := 1 }
    let c := Chain.ofLedger .settled
    let errands := ["terra1bob", "terra1alice"].map (⟨beginProposal, ·, none⟩) ++
      [⟨beginProposal, "terra1carol", none⟩]
    c.submissions w errands =
        [some (.create, some 2), some (.approve, some 2), some (.execute, some 2)] ∧
      c.after w errands = { c with
        proposals := c.proposals ++ [(ProposalRecord.mk 2 beginProposal.id beginProposal.id
          [StoredMessage.beginProposal.toJson] .executed).toJson]
        votes := c.votes ++ [("2", ["terra1bob", "terra1alice"].map (ballot 2))] } := by
  intro w c errands
  have hnumbered : c.Numbered := {
    proposals := congrArg (· :: []) (idOf_toJson (.beginProposal 1 .executed))
    votes := fun key hkey => ⟨0, by decide, List.mem_singleton.1 hkey⟩
    room := by decide }
  have hgoverned : c.Governed w Ledger.settled.members 2 := {
    threshold := ⟨.absoluteCount 2, Ledger.records_settled.threshold, rfl⟩
    group := Ledger.records_settled.members
    differ := by decide
    page := by decide
    patience := by decide }
  have hdiffer : ["terra1bob", "terra1alice"].Nodup := by decide
  have hnext : c.next = 2 := by decide
  have h := quorum hnumbered.fresh hgoverned (by decide) normalize_beginProposal (by decide +kernel)
    hdiffer rfl "terra1carol"
  rw [hnext] at h
  exact h

end Countersign
