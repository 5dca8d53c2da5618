import Countersign.Proofs.ChainCalls
import Countersign.Proofs.ReferenceDecision
import Mathlib

/-! Who is asked to vote. A signer who voted yes on a proposal is not asked again; the other choices
count as no approval, so one who voted no, abstained or vetoed is asked for a vote all the same. -/

namespace Countersign

open Dialogue

namespace Wallet

variable {σ : Type} {node : Node σ} {P : σ → Prop} {w : Wallet} {votes : UInt64 → List VoteRecord}

/-! ### What a resolution knows of the votes -/

theorem gives_lookup {Q : Snapshot → Prop} (hkeeps : node.Keeps P)
    (hsnapshot : ∀ p, (w.snapshot p).Meets node P (·.Gives Q))
    (id : Option UInt64) (candidate : StoredMessage) :
    (w.lookup id candidate).Meets node P
      (·.Gives fun snapshot => ∀ s, snapshot = some s → Q s) := by
  have hsome : ∀ d : Dialogue ResolveError Snapshot, d.Meets node P (·.Gives Q) →
      (some <$> d).Meets node P (·.Gives fun snapshot => ∀ s, snapshot = some s → Q s) := by
    refine fun d hd => hd.bind_gives fun s hs => meets_done ?_
    rintro _ ⟨⟩ _ ⟨⟩
    exact hs
  cases id with
  | some id => exact hsome _ ((asksOnly_ask _ _ _).mapError.bind_gives hkeeps hsnapshot)
  | none =>
    refine (asksOnly_ask _ _ _).mapError.bind_gives hkeeps fun page => ?_
    refine (asksOnly_ofExcept _).mapError.bind_gives hkeeps fun found => ?_
    cases found with
    | none => exact meets_done (by rintro _ ⟨⟩ _ ⟨⟩)
    | some p => exact hsome _ (hsnapshot p)

theorem gives_resolve {Q : Snapshot → Prop} (hkeeps : node.Keeps P) (id : Option UInt64)
    (hlookup : ∀ m, (w.lookup id m).Meets node P
      (·.Gives fun snapshot => ∀ s, snapshot = some s → Q s))
    (candidate : Message) (signer : String) :
    (w.resolve id candidate signer).Meets node P (·.Gives fun r => r.proposal.action = .approve →
      ∃ s, Q s ∧ r.proposal.id = some s.id ∧ signer ∉ s.approvers) := by
  rw [resolve_eq]
  refine (asksOnly_ofExcept _).mapError.bind_gives hkeeps fun m => ?_
  refine w.asksOnly_fetchMultisig.bind_gives hkeeps fun multisig => ?_
  refine (hlookup m).bind_gives fun snapshot hsnapshot => ?_
  refine (asksOnly_ofExcept _).gives hkeeps fun es r hrun haction => ?_
  obtain ⟨action, hnext, rfl⟩ := map_eq_ok.1 (Runs.ofExcept_done hrun).2
  cases snapshot with
  | none => obtain rfl : action = .create := (Except.ok.inj hnext).symm; cases haction
  | some s =>
    obtain rfl : action = .approve := haction
    have happroved := (Snapshot.action_eq_approve.1 (nextAction_some.1 hnext).1).2.2
    exact ⟨s, hsnapshot s rfl, rfl, by simpa using happroved⟩

/-- In the states in `P`, which queries do not leave, the node lists these votes, on each proposal
one of a voter at most. -/
structure Polls (w : Wallet) (node : Node σ) (P : σ → Prop) (votes : UInt64 → List VoteRecord) :
    Prop where
  keeps : node.Keeps P
  served : ∀ id, (w.votes id).Served node P w.pageSize.toNat (votes id)
  once : ∀ id, ((votes id).map VoteRecord.voter).Nodup

theorem Polls.gives_snapshot (h : w.Polls node P votes) (hpage : 1 ≤ w.pageSize)
    (p : ProposalRecord) :
    (w.snapshot p).Meets node P
      (·.Gives fun s => s.id = p.id ∧ s.approvers = VoteRecord.approvers (votes p.id)) := by
  refine (asksOnly_ofExcept _).mapError.bind_gives h.keeps fun stored => ?_
  refine Meets.bind_gives (Q := fun approvers => approvers = VoteRecord.approvers (votes p.id)) ?_
    fun approvers happrovers => meets_done fun s hs => Outcome.done.inj hs ▸ ⟨rfl, happrovers⟩
  have hsize : 0 < w.pageSize.toNat := UInt32.le_iff_toNat_le.1 hpage
  refine (ends_fetchApprovers h.keeps (h.served p.id) hsize (h.once p.id)).mono ?_
  rintro o ho approvers rfl
  split at ho
  · exact Outcome.done.inj ho
  · cases ho

theorem Polls.gives_resolve (h : w.Polls node P votes) (hpage : 1 ≤ w.pageSize)
    (id : Option UInt64) (candidate : Message) (signer : String) :
    (w.resolve id candidate signer).Meets node P (·.Gives fun r => r.proposal.action = .approve →
      ∃ p, r.proposal.id = some p ∧ signer ∉ VoteRecord.approvers (votes p)) := by
  have hsnapshot : ∀ p, (w.snapshot p).Meets node P
      (·.Gives fun s => s.approvers = VoteRecord.approvers (votes s.id)) := by
    refine fun p => (h.gives_snapshot hpage p).mono fun o ho s hs => ?_
    obtain ⟨hid, happrovers⟩ := ho s hs
    rw [happrovers, hid]
  have hlookup := gives_lookup h.keeps hsnapshot id
  refine (Wallet.gives_resolve h.keeps id hlookup candidate signer).mono fun o ho r hr ha => ?_
  obtain ⟨s, happrovers, hid, hsigner⟩ := ho r hr ha
  exact ⟨s.id, hid, happrovers ▸ hsigner⟩

/-! ### A vote -/

/-- A vote of `signer` on the proposal is submitted, or encoded for others. -/
def VotesOn (w : Wallet) (signer : String) (id : UInt64) (es : List Exchange)
    (o : Outcome RunError RunReport) : Prop :=
  (∃ reply, .submission
      [.execute signer w.multisig (MultisigCall.vote id "yes").toJson []] reply ∈ es) ∨
    ∃ report message, o = .done report ∧
      report.outcome = some (.encoded .approve (some id) message)

theorem VotesOn.of_perform {mode : DispatchMode} {prepared : Prepared} {signer : String}
    {r : Resolution} {id : UInt64} {es : List Exchange} {o : Outcome RunError RunReport}
    (hvotes : w.VotesOn signer id es o) (h : Runs (w.perform mode prepared signer r) es o) :
    r.proposal.action = .approve ∧ r.proposal.id = some id := by
  rcases hvotes with ⟨reply, hmem⟩ | ⟨report, message, rfl, hout⟩
  · obtain ⟨call, hcall, hmessages⟩ := perform_submission h hmem
    obtain rfl : .vote id "yes" = call := MultisigCall.toJson_injective (by simpa using hmessages)
    rcases Dispatcher.callFor_ok hcall with ⟨-, m, -, hc⟩ | ⟨ha, p, hp, hc⟩ | ⟨-, p, -, hc⟩
    · cases hc
    · cases hc; exact ⟨ha, hp⟩
    · cases hc
  · obtain ⟨haction, hid⟩ := perform_encoded h hout
    exact ⟨haction.symm, hid.symm⟩

theorem not_votesOn {signer : String} {id : UInt64} {es : List Exchange}
    {o : Outcome RunError RunReport}
    (hquiet : ∀ reply, .submission
      [.execute signer w.multisig (MultisigCall.vote id "yes").toJson []] reply ∉ es)
    (hnone : o.result? = none) : ¬w.VotesOn signer id es o := by
  rintro (⟨reply, hmem⟩ | ⟨report, message, rfl, -⟩)
  · exact hquiet reply hmem
  · cases hnone

theorem VotesOn.resolved {s : σ} {mode : DispatchMode} {prepared : Prepared} {signer : String}
    {id : Option UInt64} {p : UInt64}
    (hvotes : w.VotesOn signer p ((w.run mode prepared signer id).play node s).exchanges
      ((w.run mode prepared signer id).play node s).outcome) :
    ∃ r, ((w.resolve id prepared.message signer).play node s).outcome = .done r ∧
      r.proposal.action = .approve ∧ r.proposal.id = some p := by
  have hquiet : ∀ reply, .submission
      [.execute signer w.multisig (MultisigCall.vote p "yes").toJson []] reply ∉
        ((w.resolve id prepared.message signer).play node s).exchanges := fun reply hmem => by
    cases (w.asksOnly_resolve _ _ _).no_submission (runs_play node _ s) _ hmem
  cases ho : ((w.resolve id prepared.message signer).play node s).outcome with
  | done r =>
    rw [play_run_done ho] at hvotes
    have hstep : w.VotesOn signer p _ _ := hvotes.imp_left fun ⟨reply, hmem⟩ =>
      ⟨reply, (List.mem_append.1 hmem).resolve_left (hquiet reply)⟩
    exact ⟨r, rfl, hstep.of_perform (runs_play node _ _)⟩
  | failed e =>
    rw [play_run, play_mapError, ho] at hvotes
    exact absurd hvotes (not_votesOn hquiet rfl)
  | stalled =>
    rw [play_run, play_mapError, ho] at hvotes
    exact absurd hvotes (not_votesOn hquiet rfl)

theorem Polls.votesOn (h : w.Polls node P votes) (hpage : 1 ≤ w.pageSize) {s : σ} (hs : P s)
    {mode : DispatchMode} {prepared : Prepared} {signer : String} {id : Option UInt64} {p : UInt64}
    (hvotes : w.VotesOn signer p ((w.run mode prepared signer id).play node s).exchanges
      ((w.run mode prepared signer id).play node s).outcome) :
    signer ∉ VoteRecord.approvers (votes p) := by
  obtain ⟨r, hr, haction, hid⟩ := hvotes.resolved
  obtain ⟨q, hq, hsigner⟩ :=
    (h.gives_resolve hpage id prepared.message signer s hs).2 r hr haction
  rwa [Option.some.inj (hid.symm.trans hq)]

end Wallet

/-! ### Runs in sequence -/

structure Errand where
  prepared : Prepared
  signer : String
  id : Option UInt64

namespace Chain

def after (c : Chain) (w : Wallet) (errands : List Errand) : Chain :=
  errands.foldl (fun c e => ((w.run .submit e.prepared e.signer e.id).play node c).state) c

/-- The votes on a chain: each voter has one vote at most on a proposal, and these signers have not voted
but yes. -/
structure Voting (c : Chain) (votes : UInt64 → List VoteRecord) (signers : List String) : Prop where
  records : ∀ id, List.Forall₂ (Listed VoteRecord.read? "voter" VoteRecord.voter) (c.votesOn id)
    (votes id)
  once : ∀ id, ((votes id).map VoteRecord.voter).Nodup
  yes : ∀ id, ∀ v ∈ votes id, v.voter ∈ signers → v.vote = .yes

variable {c : Chain} {w : Wallet} {votes : UInt64 → List VoteRecord} {signers : List String}

theorem Voting.polls (h : c.Voting votes signers) (w : Wallet) : w.Polls node (· = c) votes where
  keeps := keeps c
  served id := served_votes (h.records id)
  once := h.once

theorem Voting.cast (h : c.Voting votes signers) {c' : Chain} {id : UInt64}
    {change : List Json → List Json} (hvotes : c'.votes = c.votes.alter (toString id) [] change)
    {cast : List VoteRecord}
    (hrecords : List.Forall₂ (Listed VoteRecord.read? "voter" VoteRecord.voter)
      (change (c.votesOn id)) cast)
    (honce : (cast.map VoteRecord.voter).Nodup)
    (hyes : ∀ v ∈ cast, v.voter ∈ signers → v.vote = .yes) :
    c'.Voting (Function.update votes id cast) signers where
  records other := by
    rw [votesOn_alter hvotes]
    by_cases hid : other = id
    · rwa [hid, if_pos rfl, Function.update_self]
    · rw [if_neg hid, Function.update_of_ne hid]
      exact h.records other
  once other := by
    by_cases hid : other = id
    · rwa [hid, Function.update_self]
    · rw [Function.update_of_ne hid]
      exact h.once other
  yes other v hv := by
    by_cases hid : other = id
    · rw [hid, Function.update_self] at hv
      exact hyes v hv
    · rw [Function.update_of_ne hid] at hv
      exact h.yes other v hv

theorem Voting.propose (h : c.Voting votes signers) (signer contract : String) (body : Json) :
    ∃ votes', (c.propose signer contract body).2.Voting votes' signers := by
  refine ⟨_, h.cast (congrArg Chain.votes (propose_eq c signer contract body))
    (.cons (listed_ballot c.next signer) .nil) (List.nodup_singleton _) fun v hv _ => ?_⟩
  rw [List.mem_singleton.1 hv]

theorem Voting.vote (h : c.Voting votes signers) {id : UInt64} {signer : String}
    (hfirst : ∀ v ∈ votes id, v.voter ≠ signer) (contract : String) :
    ∃ votes', (c.vote signer contract id).2.Voting votes' signers := by
  have hrecords := List.rel_append (h.records id) (.cons (listed_ballot id signer) .nil)
  refine ⟨_, h.cast rfl hrecords ?_ fun v hv hvoter => ?_⟩
  · rw [List.map_append, List.map_singleton]
    refine (h.once id).append (List.nodup_singleton _) ?_
    simpa using hfirst
  · rcases List.mem_append.1 hv with hv | hv
    · exact h.yes id v hv hvoter
    · rw [List.mem_singleton.1 hv]

theorem Voting.execute (h : c.Voting votes signers) (contract : String) (id : UInt64) :
    (c.execute contract id).2.Voting votes signers := by
  rw [Chain.execute]
  cases c.proposal? id with
  | none => exact h
  | some p => exact ⟨h.records, h.once, h.yes⟩

/-- What a run may do to the chain: nothing, or what one call of the multisig does. -/
theorem state_run (w : Wallet) (prepared : Prepared) (signer : String) (id : Option UInt64)
    (c : Chain) :
    let c' := ((w.run .submit prepared signer id).play node c).state
    c' = c ∨ ∃ r call,
      ((w.resolve id prepared.message signer).play node c).outcome = .done r ∧
      (w.dispatcher .submit prepared).callFor r.proposal.action r.proposal.id prepared.message =
        .ok call ∧
      c' = (c.accept [.execute signer w.multisig call.toJson []]).2 := by
  intro c'
  have hresolve : ((w.resolve id prepared.message signer).play node c).state = c :=
    ((w.asksOnly_resolve _ _ _).meets (keeps c) c rfl).1
  have hstate : c' = _ := congrArg Play.state (Wallet.play_run node w .submit prepared signer id c)
  rw [play_mapError, hresolve] at hstate
  cases ho : ((w.resolve id prepared.message signer).play node c).outcome with
  | done r =>
    rw [ho] at hstate
    replace hstate : c' = ((w.perform .submit prepared signer r).play node c).state := hstate
    rcases w.perform_cases .submit prepared signer r with hd | ⟨e, hd⟩ | ⟨call, hcall, hd | hd⟩
    · exact .inl (by rw [hstate, hd]; rfl)
    · exact .inl (by rw [hstate, hd]; rfl)
    · exact .inl (by rw [hstate, hd]; rfl)
    · refine .inr ⟨r, call, rfl, hcall, ?_⟩
      rw [hstate, hd]
      exact ((w.asksOnly_settle prepared signer r _).meets (keeps _) _ rfl).1
  | failed e => exact .inl (by rw [hstate, ho]; rfl)
  | stalled => exact .inl (by rw [hstate, ho]; rfl)

theorem Voting.run (h : c.Voting votes signers) (hpage : 1 ≤ w.pageSize) {signer : String}
    (hsigner : signer ∈ signers) (prepared : Prepared) (id : Option UInt64) :
    ∃ votes', ((w.run .submit prepared signer id).play node c).state.Voting votes' signers := by
  have hstate := state_run w prepared signer id c
  dsimp only at hstate
  generalize ((w.run .submit prepared signer id).play node c).state = c' at hstate ⊢
  rcases hstate with hc | ⟨r, call, ho, hcall, hc⟩
  · exact ⟨votes, hc ▸ h⟩
  rw [hc]
  rcases Dispatcher.callFor_ok hcall with ⟨-, m, -, rfl⟩ | ⟨ha, p, hp, rfl⟩ | ⟨-, p, -, rfl⟩
  · rw [accept_propose]
    exact h.propose signer w.multisig _
  · -- the signer has no vote that is not yes, and no vote of yes
    rw [accept_vote]
    obtain ⟨q, hq, hnot⟩ :=
      ((h.polls w).gives_resolve hpage id prepared.message signer c rfl).2 r ho ha
    obtain rfl : p = q := Option.some.inj (hp.symm.trans hq)
    exact h.vote (fun u hu hvoter => hnot <|
      VoteRecord.mem_approvers.2 ⟨u, hu, h.yes p u hu (hvoter ▸ hsigner), hvoter⟩) w.multisig
  · rw [accept_execute]
    exact ⟨votes, h.execute w.multisig p⟩

theorem Voting.after (h : c.Voting votes signers) (hpage : 1 ≤ w.pageSize) {errands : List Errand}
    (hsigners : ∀ e ∈ errands, e.signer ∈ signers) :
    ∃ votes', (c.after w errands).Voting votes' signers := by
  induction errands generalizing c votes with
  | nil => exact ⟨votes, h⟩
  | cons e errands ih =>
    obtain ⟨hfirst, hrest⟩ := List.forall_mem_cons.1 hsigners
    obtain ⟨votes', h'⟩ := h.run hpage hfirst e.prepared e.id
    exact ih h' hrest

end Chain

/-- Nobody who voted yes on a proposal is asked to vote on it again, and any sequence of runs by signers
who have not voted but yes leaves each voter with one vote at most on each proposal. -/
theorem Wallet.votes_once (w : Wallet) (hpage : 1 ≤ w.pageSize) :
    (∀ {σ : Type} {node : Node σ} {P : σ → Prop} {votes : UInt64 → List VoteRecord},
      w.Polls node P votes → ∀ s, P s → ∀ mode prepared signer id p,
        let play := (w.run mode prepared signer id).play node s
        w.VotesOn signer p play.exchanges play.outcome →
          ∀ v ∈ votes p, v.voter = signer → v.vote ≠ .yes) ∧
      ∀ (c : Chain) (votes : UInt64 → List VoteRecord) (errands : List Errand),
        c.Voting votes (errands.map Errand.signer) →
          ∃ votes', (c.after w errands).Voting votes' (errands.map Errand.signer) := by
  constructor
  · intro σ node P votes hpolls s hs mode prepared signer id p play hvotes v hv hvoter hyes
    exact hpolls.votesOn hpage hs hvotes (VoteRecord.mem_approvers.2 ⟨v, hv, hyes, hvoter⟩)
  · intro c votes errands hvoting
    exact hvoting.after hpage fun e he => List.mem_map_of_mem he

/-! ### A signer who voted no -/

def DispatchOutcome.encodesVote (id : UInt64) : DispatchOutcome → Bool
  | .encoded .approve (some voted) _ => voted == id
  | _ => false

theorem Wallet.votesOn_of_encoded {w : Wallet} {signer : String} {id : UInt64} {es : List Exchange}
    {o : Outcome RunError RunReport}
    (h : (o.result?.bind RunReport.outcome).any (·.encodesVote id)) : w.VotesOn signer id es o := by
  cases o with
  | failed e => cases h
  | stalled => cases h
  | done report =>
    replace h : report.outcome.any (·.encodesVote id) = true := h
    cases hout : report.outcome with
    | none => rw [hout] at h; cases h
    | some out =>
      rw [hout, Option.any_some] at h
      unfold DispatchOutcome.encodesVote at h
      split at h
      · next voted message => exact .inr ⟨report, message, rfl, by rw [hout, eq_of_beq h]⟩
      · cases h

theorem Ledger.voting_divided {signers : List String} (h : "terra1carol" ∉ signers) :
    (Chain.ofLedger .divided).Voting Ledger.divided.votes signers where
  records := Ledger.records_divided.votes
  once id := by
    by_cases hid : id = 1
    · subst hid
      decide
    · simp [Ledger.divided, hid]
  yes id v hv hvoter := by
    by_cases hid : id = 1
    · subst hid
      have hall : ∀ v ∈ Ledger.divided.votes 1, v.voter ≠ "terra1carol" → v.vote = .yes := by
        decide
      exact hall v hv fun hcarol => h (hcarol ▸ hvoter)
    · simp [Ledger.divided, hid] at hv

open Rehearsal

theorem Wallet.votes_once_divided :
    let c := Chain.ofLedger .divided
    let play := (feedWallet.run .dryRun beginProposal "terra1dave" none).play Chain.node c
    feedWallet.VotesOn "terra1dave" 1 play.exchanges play.outcome ∧
      (∀ v ∈ Ledger.divided.votes 1, v.voter = "terra1dave" → v.vote ≠ .yes) ∧
      ∃ votes', (c.after feedWallet [⟨beginProposal, "terra1dave", none⟩,
        ⟨beginProposal, "terra1dave", some 1⟩]).Voting votes' ["terra1dave", "terra1dave"] := by
  intro c play
  have hvotes : feedWallet.VotesOn "terra1dave" 1 play.exchanges play.outcome :=
    votesOn_of_encoded (by decide +kernel)
  have hvoting : c.Voting Ledger.divided.votes ["terra1dave", "terra1dave"] :=
    Ledger.voting_divided (by decide)
  exact ⟨hvotes, (Wallet.votes_once feedWallet (by decide)).1 (hvoting.polls feedWallet) c rfl _ _ _ _ _
    hvotes, (Wallet.votes_once feedWallet (by decide)).2 c _ _ hvoting⟩

/-- The member who voted no is asked for a vote, and then has two. -/
theorem Wallet.vote_repeated :
    let c := Chain.ofLedger .divided
    let play := (feedWallet.run .dryRun beginProposal "terra1carol" none).play Chain.node c
    c.Voting Ledger.divided.votes [] ∧ ⟨"terra1carol", .no, 1⟩ ∈ Ledger.divided.votes 1 ∧
      feedWallet.VotesOn "terra1carol" 1 play.exchanges play.outcome ∧
      (((c.after feedWallet [⟨beginProposal, "terra1carol", none⟩]).votesOn 1).filter fun v =>
        (v.getD "voter").text? == some "terra1carol").length = 2 := by
  intro c play
  exact ⟨Ledger.voting_divided (by decide), by simp [Ledger.divided],
    votesOn_of_encoded (by decide +kernel), by decide +kernel⟩

end Countersign
