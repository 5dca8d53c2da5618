import Countersign.Multisig.Wallet
import Countersign.Proofs.Decision
import Countersign.Proofs.Dialogue
import Countersign.Proofs.Roster

/-! What the answers of a run tell about the multisig: its threshold, its proposals and their votes.
A resolution rests on nothing else, and its own text says which answers it rests on. -/

namespace Countersign

open Dialogue

/-- An answer among the exchanges that reads as `a`. -/
def Told {α : Type} (es : List Exchange) (contract : String) (question : Json)
    (read : Json → Option α) (a : α) : Prop :=
  ∃ v, .query contract question (.ok v) ∈ es ∧ read v = some a

theorem told_append {α : Type} {es₁ es₂ : List Exchange} {contract : String} {question : Json}
    {read : Json → Option α} {a : α} :
    Told (es₁ ++ es₂) contract question read a ↔
      Told es₁ contract question read a ∨ Told es₂ contract question read a := by
  simp only [Told, List.mem_append, or_and_right, exists_or]

def queryKind : Json → Option String
  | .object ((kind, _) :: _) => some kind
  | _ => none

theorem queryKind_pageQuery (kind : String) (body : List (String × Json)) (size : UInt32)
    (cursor : Option String) :
    queryKind (Listing.pageQuery kind body size cursor) = some kind := rfl

def Avoids (kind : String) (es : List Exchange) : Prop :=
  ∀ contract question reply, .query contract question reply ∈ es → queryKind question ≠ some kind

theorem Avoids.append {kind : String} {es₁ es₂ : List Exchange} (h₁ : Avoids kind es₁)
    (h₂ : Avoids kind es₂) : Avoids kind (es₁ ++ es₂) := by
  intro contract question reply he
  rcases List.mem_append.1 he with he | he
  · exact h₁ _ _ _ he
  · exact h₂ _ _ _ he

theorem Avoids.not_told {α : Type} {kind : String} {es : List Exchange} {contract : String}
    {question : Json} {read : Json → Option α} {a : α} (h : Avoids kind es)
    (hk : queryKind question = some kind) : ¬Told es contract question read a :=
  fun ⟨_, he, _⟩ => h _ _ _ he hk

/-! ### Listings -/

theorem Listing.runs_after {α : Type} (l : Listing α) {pages : Nat} {cursor : Option String}
    {es : List Exchange} {items : List α} (h : Runs (l.after pages cursor) es (.done items)) :
    (∀ e ∈ es, ∃ c v, e = .query l.contract (l.question c) (.ok v)) ∧
      ∀ a, a ∈ items ↔
        ∃ c page, Told es l.contract (l.question c) l.readPage? page ∧ a ∈ page := by
  induction pages generalizing cursor es items with
  | zero => cases h
  | succ pages ih =>
    rw [Listing.after] at h
    obtain ⟨page, es₁, es₂, hask, hrest, rfl⟩ := h.bind_done
    obtain ⟨v, rfl, hv⟩ := hask.ask_done
    have here : ∀ c p, Told [.query l.contract (l.question cursor) (.ok v)] l.contract
        (l.question c) l.readPage? p → p = page := by
      rintro c p ⟨u, hu, hp⟩
      obtain ⟨-, -, rfl⟩ : l.contract = l.contract ∧ l.question c = l.question cursor ∧ u = v := by
        simpa using hu
      exact Option.some.inj (hp.symm.trans hv)
    have told : Told [.query l.contract (l.question cursor) (.ok v)] l.contract
        (l.question cursor) l.readPage? page := ⟨v, by simp, hv⟩
    split at hrest
    · obtain ⟨rfl, rfl⟩ := hrest.pure_done
      refine ⟨by simp, fun a => ⟨fun ha => ⟨cursor, _, told, ha⟩, ?_⟩⟩
      rintro ⟨c, p, hp, ha⟩
      exact here c p hp ▸ ha
    · obtain ⟨tail, es₃, es₄, htail, hpure, rfl⟩ := hrest.bind_done
      obtain ⟨rfl, rfl⟩ := hpure.pure_done
      obtain ⟨hall, hmem⟩ := ih htail
      rw [List.append_nil]
      refine ⟨?_, fun a => ⟨fun ha => ?_, ?_⟩⟩
      · intro e he
        rcases List.mem_cons.1 he with rfl | he
        · exact ⟨cursor, v, rfl⟩
        · exact hall e he
      · rcases List.mem_append.1 ha with ha | ha
        · exact ⟨cursor, page, told_append.2 (.inl told), ha⟩
        · obtain ⟨c, p, hp, ha⟩ := (hmem a).1 ha
          exact ⟨c, p, told_append.2 (.inr hp), ha⟩
      · rintro ⟨c, p, hp, ha⟩
        rcases told_append.1 hp with hp | hp
        · exact List.mem_append_left _ (here c p hp ▸ ha)
        · exact List.mem_append_right _ ((hmem a).2 ⟨c, p, hp, ha⟩)

theorem Listing.asksOnly_after {α : Type} (l : Listing α) (pages : Nat) (cursor : Option String) :
    (l.after pages cursor).AsksOnly := by
  induction pages generalizing cursor with
  | zero => trivial
  | succ pages ih =>
    rw [Listing.after]
    refine (asksOnly_ask _ _ _).bind fun page => ?_
    split
    · trivial
    · exact (ih _).bind fun _ => trivial

theorem Listing.runs_all {α : Type} (l : Listing α) {pages : Nat} {es : List Exchange}
    {items : List α} (h : Runs (l.all pages) es (.done items)) :
    (∀ e ∈ es, ∃ c v, e = .query l.contract (l.question c) (.ok v)) ∧
      ∀ a, a ∈ items ↔
        ∃ c page, Told es l.contract (l.question c) l.readPage? page ∧ a ∈ page :=
  l.runs_after h

/-! ### The multisig -/

/-- All messages can be read, and they are `candidate` and nothing else. -/
def ProposalRecord.Holds (p : ProposalRecord) (candidate : StoredMessage) : Prop :=
  ∃ stored, p.messages.mapM StoredMessage.ofJson = .ok stored ∧
    messagesMatch stored [candidate] = .ok true

namespace ProposalRecord

def verdict (candidate : StoredMessage) (p : ProposalRecord) : Except MessageError Bool :=
  if p.status.isActionable then
    match p.messages.mapM StoredMessage.ofJson with
    | .error _ => .ok false
    | .ok stored => messagesMatch stored [candidate]
  else .ok false

theorem verdict_eq_true {candidate : StoredMessage} {p : ProposalRecord} :
    p.verdict candidate = .ok true ↔ p.status.isActionable ∧ p.Holds candidate := by
  unfold verdict Holds
  by_cases hactionable : p.status.isActionable
  · cases hread : p.messages.mapM StoredMessage.ofJson with
    | error e => simp [hactionable]
    | ok stored => simp [hactionable]
  · simp [hactionable]

/-- The proposal is passed over: nothing can be done about it, one of its messages is of no kind that
is read, or they are not the candidate. -/
def Misses (candidate : StoredMessage) (p : ProposalRecord) : Prop :=
  ¬p.status.isActionable ∨ (∃ e, p.messages.mapM StoredMessage.ofJson = .error e) ∨
    ∃ stored, p.messages.mapM StoredMessage.ofJson = .ok stored ∧
      messagesMatch stored [candidate] = .ok false

theorem verdict_eq_false {candidate : StoredMessage} {p : ProposalRecord} :
    p.verdict candidate = .ok false ↔ p.Misses candidate := by
  unfold verdict Misses
  by_cases hactionable : p.status.isActionable
  · cases hread : p.messages.mapM StoredMessage.ofJson with
    | error e => simp [hactionable]
    | ok stored => simp [hactionable]
  · simp [hactionable]

theorem not_holds_of_verdict {candidate : StoredMessage} {p : ProposalRecord}
    (h : p.verdict candidate = .ok false) : ¬(p.status.isActionable ∧ p.Holds candidate) :=
  fun hholds => by cases h.symm.trans (verdict_eq_true.2 hholds)

theorem Misses.not_holds {candidate : StoredMessage} {p : ProposalRecord} (h : p.Misses candidate) :
    ¬(p.status.isActionable ∧ p.Holds candidate) :=
  not_holds_of_verdict (verdict_eq_false.2 h)

end ProposalRecord

namespace Wallet

def ToldRequired (w : Wallet) (es : List Exchange) (required : UInt64) : Prop :=
  ∃ t, Told es w.multisig thresholdQuery Threshold.read? t ∧ t.required = .ok required

def ToldProposal (w : Wallet) (es : List Exchange) (p : ProposalRecord) : Prop :=
  (∃ id, Told es w.multisig (proposalQuery id) ProposalRecord.read? p) ∨
    ∃ page, Told es w.multisig w.recentQuery ProposalRecord.readPage? page ∧ p ∈ page

def ToldYes (w : Wallet) (es : List Exchange) (id : UInt64) (voter : String) : Prop :=
  ∃ cursor page, Told es w.multisig ((w.votes id).question cursor) VoteRecord.readPage? page ∧
    ∃ v ∈ page, v.vote = .yes ∧ v.voter = voter

theorem ToldProposal.append_left {w : Wallet} {es₁ es₂ : List Exchange} {p : ProposalRecord}
    (h : w.ToldProposal es₁ p) : w.ToldProposal (es₁ ++ es₂) p :=
  h.imp (fun ⟨id, h⟩ => ⟨id, told_append.2 (.inl h)⟩)
    fun ⟨page, h, hp⟩ => ⟨page, told_append.2 (.inl h), hp⟩

theorem ToldProposal.append_right {w : Wallet} {es₁ es₂ : List Exchange} {p : ProposalRecord}
    (h : w.ToldProposal es₂ p) : w.ToldProposal (es₁ ++ es₂) p :=
  h.imp (fun ⟨id, h⟩ => ⟨id, told_append.2 (.inr h)⟩)
    fun ⟨page, h, hp⟩ => ⟨page, told_append.2 (.inr h), hp⟩

theorem toldYes_append_of_avoids {w : Wallet} {es₁ es₂ : List Exchange} {id : UInt64}
    {voter : String} (h : Avoids "list_votes" es₁) :
    w.ToldYes (es₁ ++ es₂) id voter ↔ w.ToldYes es₂ id voter := by
  constructor
  · rintro ⟨cursor, page, ht, hv⟩
    rcases told_append.1 ht with ht | ht
    · exact (h.not_told (queryKind_pageQuery ..) ht).elim
    · exact ⟨cursor, page, ht, hv⟩
  · rintro ⟨cursor, page, ht, hv⟩
    exact ⟨cursor, page, told_append.2 (.inr ht), hv⟩

theorem fetchMultisig_done {w : Wallet} {es : List Exchange} {m : MultisigState}
    (h : Runs w.fetchMultisig es (.done m)) :
    w.ToldRequired es m.threshold ∧ Avoids "list_votes" es ∧ Avoids "proposal" es ∧
      Avoids "reverse_proposals" es := by
  rw [fetchMultisig] at h
  obtain ⟨t, es₁, es₂, ht, hrest, rfl⟩ := h.bind_done
  obtain ⟨v, rfl, hv⟩ := ht.mapError_done.ask_done
  obtain ⟨members, es₃, es₄, hm, hlast, rfl⟩ := hrest.bind_done
  obtain ⟨hall, -⟩ := w.members.runs_all hm.mapError_done
  have hreq : es₄ = [] ∧ t.required = .ok m.threshold := by
    cases hr : t.required with
    | ok n => rw [hr] at hlast; cases hlast; exact ⟨rfl, rfl⟩
    | error kind => rw [hr] at hlast; cases hlast
  obtain ⟨rfl, hreq⟩ := hreq
  have avoids : ∀ kind, kind ≠ "threshold" → kind ≠ "list_members" →
      Avoids kind ([.query w.multisig thresholdQuery (.ok v)] ++ (es₃ ++ [])) := by
    intro kind h₁ h₂ contract question reply he
    rcases List.mem_append.1 he with he | he
    · cases List.mem_singleton.1 he
      exact fun h => h₁ (Option.some.inj h).symm
    · obtain ⟨c, u, he⟩ := hall _ (by simpa using he)
      cases he
      exact fun h => h₂ (Option.some.inj h).symm
  exact ⟨⟨t, ⟨v, by simp, hv⟩, hreq⟩, avoids _ (by decide) (by decide),
    avoids _ (by decide) (by decide), avoids _ (by decide) (by decide)⟩

theorem snapshot_done {w : Wallet} {p : ProposalRecord} {es : List Exchange} {s : Snapshot}
    (h : Runs (w.snapshot p) es (.done s)) :
    s.id = p.id ∧ s.status = p.status ∧ p.messages.mapM StoredMessage.ofJson = .ok s.messages ∧
      s.approvers.Nodup ∧ ∀ voter, voter ∈ s.approvers ↔ w.ToldYes es p.id voter := by
  rw [snapshot] at h
  obtain ⟨messages, es₁, es₂, hm, hrest, rfl⟩ := h.bind_done
  obtain ⟨rfl, hstored⟩ := Runs.ofExcept_done hm.mapError_done
  obtain ⟨approvers, es₃, es₄, ha, hlast, rfl⟩ := hrest.bind_done
  obtain ⟨rfl, rfl⟩ := hlast.pure_done
  rw [fetchApprovers] at ha
  obtain ⟨votes, es₅, es₆, hv, hlast, rfl⟩ := ha.bind_done
  obtain ⟨rfl, rfl⟩ := hlast.pure_done
  obtain ⟨-, hmem⟩ := (w.votes p.id).runs_all hv.mapError_done
  refine ⟨rfl, rfl, hstored, Roster.nodup_ofList _, fun voter => ?_⟩
  simp only [Roster.mem_ofList, List.mem_map, List.mem_filter, beq_iff_eq, hmem,
    List.nil_append, List.append_nil]
  constructor
  · rintro ⟨v, ⟨⟨cursor, page, ht, hv⟩, hyes⟩, rfl⟩
    exact ⟨cursor, page, ht, v, hv, hyes, rfl⟩
  · rintro ⟨cursor, page, ht, v, hv, hyes, rfl⟩
    exact ⟨v, ⟨⟨cursor, page, ht, hv⟩, hyes⟩, rfl⟩

theorem fetchProposal_done {w : Wallet} {id : UInt64} {es : List Exchange} {s : Snapshot}
    (h : Runs (w.fetchProposal id) es (.done s)) :
    ∃ p es₁ es₂, es = es₁ ++ es₂ ∧ w.ToldProposal es₁ p ∧ Avoids "list_votes" es₁ ∧
      Runs (w.snapshot p) es₂ (.done s) := by
  rw [fetchProposal] at h
  obtain ⟨p, es₁, es₂, hask, hsnap, rfl⟩ := h.bind_done
  obtain ⟨v, rfl, hv⟩ := hask.mapError_done.ask_done
  refine ⟨p, _, es₂, rfl, .inl ⟨id, v, by simp, hv⟩, fun contract question reply he => ?_, hsnap⟩
  cases List.mem_singleton.1 he
  exact fun hk => absurd (Option.some.inj hk) (by decide)

theorem selectOpen_cons (candidate : StoredMessage) (p : ProposalRecord)
    (rest : List ProposalRecord) : selectOpen candidate (p :: rest) =
      p.verdict candidate >>= fun fits =>
        if fits then .ok (some p) else selectOpen candidate rest := by
  rw [selectOpen, ProposalRecord.verdict]
  by_cases hactionable : p.status.isActionable
  · rw [if_pos hactionable, if_pos hactionable]
    cases p.messages.mapM StoredMessage.ofJson <;> rfl
  · rw [if_neg hactionable, if_neg hactionable]
    rfl

theorem selectOpen_eq_some {candidate : StoredMessage} {page : List ProposalRecord}
    {p : ProposalRecord} (h : selectOpen candidate page = .ok (some p)) :
    ∃ newer older, page = newer ++ p :: older ∧
      (p.status.isActionable ∧ p.Holds candidate) ∧ ∀ q ∈ newer, q.Misses candidate := by
  induction page with
  | nil => cases h
  | cons q rest ih =>
    rw [selectOpen_cons] at h
    cases hverdict : q.verdict candidate with
    | error e => rw [hverdict] at h; cases h
    | ok fits =>
      rw [hverdict] at h
      cases fits with
      | true =>
        obtain rfl : q = p := Option.some.inj (Except.ok.inj h)
        exact ⟨[], rest, rfl, ProposalRecord.verdict_eq_true.1 hverdict, by simp⟩
      | false =>
        obtain ⟨newer, older, rfl, hp, hnewer⟩ := ih h
        have hq : q.Misses candidate := ProposalRecord.verdict_eq_false.1 hverdict
        exact ⟨q :: newer, older, rfl, hp, List.forall_mem_cons.2 ⟨hq, hnewer⟩⟩

theorem selectOpen_eq_none {candidate : StoredMessage} {page : List ProposalRecord}
    (h : selectOpen candidate page = .ok none) : ∀ q ∈ page, q.Misses candidate := by
  induction page with
  | nil => simp
  | cons q rest ih =>
    rw [selectOpen_cons] at h
    cases hverdict : q.verdict candidate with
    | error e => rw [hverdict] at h; cases h
    | ok fits =>
      rw [hverdict] at h
      cases fits with
      | true => cases h
      | false => exact List.forall_mem_cons.2 ⟨ProposalRecord.verdict_eq_false.1 hverdict, ih h⟩

/-- Nothing is passed over that could be chosen, and what is chosen holds the candidate. -/
theorem selectOpen_ok {candidate : StoredMessage} {proposals : List ProposalRecord}
    {found : Option ProposalRecord} (h : selectOpen candidate proposals = .ok found) :
    (∀ p, found = some p → p ∈ proposals ∧ p.status.isActionable ∧ p.Holds candidate) ∧
      (found = none → ∀ p ∈ proposals, ¬(p.status.isActionable ∧ p.Holds candidate)) := by
  constructor
  · rintro p rfl
    obtain ⟨newer, older, rfl, hp, -⟩ := selectOpen_eq_some h
    exact ⟨by simp, hp⟩
  · rintro rfl p hp
    exact (selectOpen_eq_none h p hp).not_holds

theorem findOpen_done {w : Wallet} {candidate : StoredMessage} {es : List Exchange}
    {found : Option Snapshot} (h : Runs (w.findOpen candidate) es (.done found)) :
    ∃ es₁ es₂, ∃ page : List ProposalRecord, es = es₁ ++ es₂ ∧ Avoids "list_votes" es₁ ∧
      Avoids "proposal" es₁ ∧ (∀ p, w.ToldProposal es₁ p ↔ p ∈ page) ∧
      match found with
      | none => es₂ = [] ∧ ∀ p ∈ page, ¬(p.status.isActionable ∧ p.Holds candidate)
      | some s => ∃ p ∈ page, p.Holds candidate ∧ Runs (w.snapshot p) es₂ (.done s) := by
  rw [findOpen] at h
  obtain ⟨page, es₁, es₂, hpage, hrest, rfl⟩ := h.bind_done
  rw [recentProposals] at hpage
  obtain ⟨v, rfl, hv⟩ := hpage.mapError_done.ask_done
  obtain ⟨choice, es₃, es₄, hselect, hlast, rfl⟩ := hrest.bind_done
  obtain ⟨rfl, hchoice⟩ := Runs.ofExcept_done hselect.mapError_done
  obtain ⟨hsome, hnone⟩ := selectOpen_ok hchoice
  have avoids : ∀ kind, kind ≠ "reverse_proposals" →
      Avoids kind [.query w.multisig w.recentQuery (.ok v)] := by
    intro kind hk contract question reply he
    cases List.mem_singleton.1 he
    exact fun h => hk (Option.some.inj h).symm
  have told : ∀ p, w.ToldProposal [.query w.multisig w.recentQuery (.ok v)] p ↔ p ∈ page := by
    intro p
    constructor
    · rintro (⟨id, ht⟩ | ⟨page', ⟨u, hu, hpage'⟩, hp⟩)
      · exact ((avoids "proposal" (by decide)).not_told rfl ht).elim
      · obtain rfl : u = v := by simpa using hu
        cases hv.symm.trans hpage'
        exact hp
    · exact fun hp => .inr ⟨page, ⟨v, by simp, hv⟩, hp⟩
  refine ⟨_, es₄, page, rfl, avoids _ (by decide), avoids _ (by decide), told, ?_⟩
  cases choice with
  | none =>
    obtain ⟨rfl, rfl⟩ := hlast.pure_done
    exact ⟨rfl, hnone rfl⟩
  | some p =>
    obtain ⟨s, es₅, es₆, hsnap, hpure, rfl⟩ := hlast.bind_done
    obtain ⟨rfl, rfl⟩ := hpure.pure_done
    obtain ⟨hp, -, hholds⟩ := hsome p rfl
    exact ⟨p, hp, hholds, by simpa using hsnap⟩

/-- The snapshot is of a proposal that was read, with all the votes of yes that were read on it. -/
structure Supports (w : Wallet) (es : List Exchange) (p : ProposalRecord) (s : Snapshot) :
    Prop where
  told : w.ToldProposal es p
  id : s.id = p.id
  status : s.status = p.status
  stored : p.messages.mapM StoredMessage.ofJson = .ok s.messages
  nodup : s.approvers.Nodup
  voters : ∀ voter, voter ∈ s.approvers ↔ w.ToldYes es p.id voter

theorem supports_of_snapshot {w : Wallet} {es₁ es₂ : List Exchange} {p : ProposalRecord}
    {s : Snapshot} (hp : w.ToldProposal es₁ p) (hvotes : Avoids "list_votes" es₁)
    (h : Runs (w.snapshot p) es₂ (.done s)) : w.Supports (es₁ ++ es₂) p s := by
  obtain ⟨hid, hstatus, hstored, hnodup, hvoters⟩ := snapshot_done h
  exact ⟨hp.append_left, hid, hstatus, hstored, hnodup, fun voter =>
    (hvoters voter).trans (toldYes_append_of_avoids hvotes).symm⟩

theorem action_stateOf {threshold : UInt64} {snapshot : Option Snapshot} {candidate : StoredMessage}
    {approved : Bool} {action : NextAction}
    (h : nextAction snapshot threshold candidate approved = .ok action) :
    (stateOf threshold snapshot action).action = action := by
  cases snapshot with
  | none => cases h; rfl
  | some s => rfl

theorem decide_done {multisig : MultisigState} {snapshot : Option Snapshot} {m : StoredMessage}
    {approved : Bool} {es : List Exchange} {r : Resolution}
    (h : Runs (do
      let action ← Dialogue.ofExcept (nextAction snapshot multisig.threshold m approved)
      return { multisig, proposal := stateOf multisig.threshold snapshot action }) es (.done r)) :
    es = [] ∧ r.multisig = multisig ∧
      r.proposal = stateOf multisig.threshold snapshot r.proposal.action ∧
      nextAction snapshot multisig.threshold m approved = .ok r.proposal.action := by
  obtain ⟨action, es₁, es₂, haction, hlast, rfl⟩ := h.bind_done
  obtain ⟨rfl, hnext⟩ := Runs.ofExcept_done haction
  obtain ⟨rfl, rfl⟩ := hlast.pure_done
  rw [action_stateOf hnext]
  exact ⟨rfl, rfl, rfl, hnext⟩

/-- A resolution decides by the required approvals that were read and, unless it finds no proposal,
by a snapshot that the answers support. -/
theorem resolve_done {w : Wallet} {id : Option UInt64} {candidate : Message} {signer : String}
    {es : List Exchange} {r : Resolution}
    (h : Runs (w.resolve id candidate signer) es (.done r)) :
    ∃ m snapshot, candidate.normalize = .ok m ∧ w.ToldRequired es r.multisig.threshold ∧
      r.proposal = stateOf r.multisig.threshold snapshot r.proposal.action ∧
      nextAction snapshot r.multisig.threshold m
        (snapshot.any fun s => s.approvers.contains signer) = .ok r.proposal.action ∧
      (snapshot = none → id = none ∧
        ∀ p, w.ToldProposal es p → ¬(p.status.isActionable ∧ p.Holds m)) ∧
      ∀ s, snapshot = some s → ∃ p, w.Supports es p s := by
  rw [resolve] at h
  obtain ⟨m, es₁, es₂, hm, hrest, rfl⟩ := h.bind_done
  obtain ⟨rfl, hnormal⟩ := Runs.ofExcept_done hm.mapError_done
  obtain ⟨multisig, es₃, es₄, hmultisig, hfind, rfl⟩ := hrest.bind_done
  obtain ⟨hrequired, hvotes, hproposal, hrecent⟩ := fetchMultisig_done hmultisig
  have required : ∀ es, w.ToldRequired (es₃ ++ es) multisig.threshold := by
    obtain ⟨t, ht, hreq⟩ := hrequired
    exact fun es => ⟨t, told_append.2 (.inl ht), hreq⟩
  cases id with
  | some id =>
    obtain ⟨snapshot, es₅, es₆, hsnap, hdecide, rfl⟩ := hfind.bind_done
    obtain ⟨s, es₇, es₈, hfetch, hpure, rfl⟩ := Runs.bind_done hsnap
    obtain ⟨rfl, rfl⟩ := hpure.pure_done
    obtain ⟨p, es₉, es₁₀, rfl, htold, hquiet, hs⟩ := fetchProposal_done hfetch
    obtain ⟨rfl, rfl, hstate, hnext⟩ := decide_done hdecide
    refine ⟨m, some s, hnormal, ?_, hstate, hnext, by simp, ?_⟩
    · exact required _
    · rintro _ ⟨⟩
      have hall := supports_of_snapshot htold.append_right (hvotes.append hquiet) hs
      exact ⟨p, by simpa using hall⟩
  | none =>
    obtain ⟨snapshot, es₅, es₆, hsnap, hdecide, rfl⟩ := hfind.bind_done
    obtain ⟨es₇, es₈, page, rfl, hquiet, hnot, htold, hfound⟩ := findOpen_done hsnap
    obtain ⟨rfl, rfl, hstate, hnext⟩ := decide_done hdecide
    refine ⟨m, snapshot, hnormal, required _, hstate, hnext, ?_, ?_⟩
    · -- nothing before the page of recent proposals tells of any proposal
      rintro rfl
      obtain ⟨rfl, hpage⟩ := hfound
      refine ⟨rfl, fun p hp => hpage p ((htold p).1 ?_)⟩
      simp only [List.nil_append, List.append_nil] at hp
      rcases hp with ⟨id, ht⟩ | ⟨page', ht, hp⟩
      · exact ((hproposal.append hnot).not_told rfl ht).elim
      · rcases told_append.1 ht with ht | ht
        · exact (hrecent.not_told rfl ht).elim
        · exact .inr ⟨page', ht, hp⟩
    · rintro s rfl
      obtain ⟨p, hp, hholds, hs⟩ := hfound
      have hall := supports_of_snapshot ((htold p).2 hp).append_right (hvotes.append hquiet) hs
      exact ⟨p, by simpa using hall⟩

theorem resolve_create {w : Wallet} {id : Option UInt64} {candidate : Message} {signer : String}
    {es : List Exchange} {r : Resolution}
    (h : Runs (w.resolve id candidate signer) es (.done r)) (hr : r.proposal.action = .create) :
    r.proposal.id = none := by
  obtain ⟨m, snapshot, -, -, hstate, hnext, -⟩ := resolve_done h
  cases snapshot with
  | none => rw [hstate]; rfl
  | some s =>
    rw [hr, nextAction_some] at hnext
    exact absurd hnext.1 Snapshot.action_ne_create

/-! ### Nothing is submitted -/

theorem asksOnly_fetchMultisig (w : Wallet) : w.fetchMultisig.AsksOnly := by
  refine (asksOnly_ask _ _ _).mapError.bind fun t => ?_
  refine (w.members.asksOnly_after _ _).mapError.bind fun members => ?_
  dsimp only
  split <;> trivial

theorem asksOnly_snapshot (w : Wallet) (p : ProposalRecord) : (w.snapshot p).AsksOnly := by
  refine (asksOnly_ofExcept _).mapError.bind fun messages => AsksOnly.bind ?_ fun _ => trivial
  exact ((w.votes p.id).asksOnly_after _ _).mapError.bind fun _ => trivial

theorem asksOnly_fetchProposal (w : Wallet) (id : UInt64) : (w.fetchProposal id).AsksOnly :=
  (asksOnly_ask _ _ _).mapError.bind w.asksOnly_snapshot

theorem asksOnly_recentProposals (w : Wallet) : w.recentProposals.AsksOnly :=
  (asksOnly_ask _ _ _).mapError

theorem asksOnly_findOpen (w : Wallet) (candidate : StoredMessage) :
    (w.findOpen candidate).AsksOnly := by
  refine w.asksOnly_recentProposals.bind fun page => (asksOnly_ofExcept _).mapError.bind ?_
  rintro (_ | p)
  · trivial
  · exact (w.asksOnly_snapshot p).bind fun _ => trivial

theorem asksOnly_resolve (w : Wallet) (id : Option UInt64) (candidate : Message)
    (signer : String) : (w.resolve id candidate signer).AsksOnly := by
  refine (asksOnly_ofExcept _).mapError.bind fun m => w.asksOnly_fetchMultisig.bind fun _ => ?_
  cases id with
  | some id =>
    exact (w.asksOnly_fetchProposal id).map.bind fun _ =>
      (asksOnly_ofExcept _).bind fun _ => trivial
  | none =>
    exact (w.asksOnly_findOpen m).bind fun _ => (asksOnly_ofExcept _).bind fun _ => trivial

theorem asksOnly_inspect (w : Wallet) (id : Option UInt64) (signer : Option String) :
    (w.inspect id signer).AsksOnly := by
  refine w.asksOnly_fetchMultisig.bind fun _ => ?_
  cases id with
  | some id => exact (w.asksOnly_fetchProposal id).map.bind fun _ => trivial
  | none =>
    refine w.asksOnly_recentProposals.bind fun page => ?_
    split
    · exact (w.asksOnly_snapshot _).map.bind fun _ => trivial
    · trivial

end Wallet
end Countersign
