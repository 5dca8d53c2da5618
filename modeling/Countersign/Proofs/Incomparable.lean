import Countersign.Proofs.Inspection
import Countersign.Proofs.RecentProposals
import Mathlib

/-! Proposals that cannot be compared, in the search for the one that holds the candidate. Most are
passed over. One that can still be acted on and whose only message is read but has no canonical form
ends the search instead, unless a newer proposal fits. -/

namespace Countersign

open Dialogue

def StoredMessage.comparable (v : Json) : Bool :=
  (ofJson v >>= canonical).toBool

theorem StoredMessage.comparable_iff {v : Json} :
    comparable v = true ↔ ∃ m, ofJson v = .ok m ∧ m.Canonicalizes := by
  unfold comparable Canonicalizes
  cases ofJson v with
  | error e => exact ⟨nofun, nofun⟩
  | ok m =>
    change m.canonical.toBool = true ↔ _
    cases hm : m.canonical with
    | error e => simp [Except.toBool, hm]
    | ok c => simp [Except.toBool, hm]

theorem StoredMessage.all_comparable_iff {vs : List Json} : vs.all comparable = true ↔
    ∃ stored, vs.mapM ofJson = .ok stored ∧ ∀ m ∈ stored, m.Canonicalizes := by
  induction vs with
  | nil => exact iff_of_true rfl ⟨[], rfl, by simp⟩
  | cons v vs ih =>
    rw [List.all_cons, Bool.and_eq_true, comparable_iff, ih]
    simp only [List.mapM_cons, bind_eq_ok, pure, Except.pure, Except.ok.injEq]
    constructor
    · rintro ⟨⟨m, hv, hm⟩, stored, hvs, hstored⟩
      exact ⟨m :: stored, ⟨m, hv, stored, hvs, rfl⟩, List.forall_mem_cons.2 ⟨hm, hstored⟩⟩
    · rintro ⟨-, ⟨m, hv, stored, hvs, rfl⟩, hall⟩
      obtain ⟨hm, hstored⟩ := List.forall_mem_cons.1 hall
      exact ⟨⟨m, hv, hm⟩, stored, hvs, hstored⟩

namespace ProposalRecord

variable {candidate : StoredMessage} {p : ProposalRecord}

def comparable (p : ProposalRecord) : Bool :=
  p.messages.all StoredMessage.comparable

/-- The proposal can still be acted on, and its one message is read but has no canonical form. -/
def Obstructs (p : ProposalRecord) : Prop :=
  p.status.isActionable ∧
    ∃ m, p.messages.mapM StoredMessage.ofJson = .ok [m] ∧ ¬m.Canonicalizes

theorem exists_verdict (hcandidate : candidate.Canonicalizes) (hp : p.comparable = true) :
    ∃ fits, p.verdict candidate = .ok fits := by
  obtain ⟨stored, hread, hstored⟩ := StoredMessage.all_comparable_iff.1 hp
  unfold verdict
  split
  · rw [hread]
    exact StoredMessage.exists_messagesMatch hstored (List.forall_mem_singleton.2 hcandidate)
  · exact ⟨false, rfl⟩

theorem verdict_of_not_comparable (hp : p.comparable = false) (hclear : ¬p.Obstructs) :
    p.verdict candidate = .ok false := by
  unfold verdict
  split
  · next hactionable =>
    split
    · rfl
    · next stored hread =>
      -- with any other number of messages than one it differs before any is compared
      refine if_neg fun hlen => ?_
      obtain ⟨m, rfl⟩ := List.length_eq_one_iff.1 hlen
      have hm : m.Canonicalizes := not_not.1 fun hm => hclear ⟨hactionable, m, hread, hm⟩
      have hcomparable := StoredMessage.all_comparable_iff.2
        ⟨[m], hread, List.forall_mem_singleton.2 hm⟩
      exact Bool.false_ne_true (hp.symm.trans hcomparable)
  · rfl

theorem Obstructs.verdict_error (hp : p.Obstructs) (candidate : StoredMessage) :
    ∃ e, p.verdict candidate = .error e := by
  obtain ⟨hactionable, m, hread, hm⟩ := hp
  unfold verdict
  rw [if_pos hactionable, hread]
  cases hcanonical : m.canonical with
  | ok c => exact absurd ⟨c, hcanonical⟩ hm
  | error e =>
    have hsame : m.same candidate = .error e := by rw [StoredMessage.same, hcanonical]; rfl
    exact ⟨e, by simp only [messagesMatch, StoredMessage.allSame, hsame]; rfl⟩

end ProposalRecord

namespace Wallet

variable {candidate : StoredMessage} {page : List ProposalRecord} {w : Wallet}

def Obstructed (candidate : StoredMessage) (page : List ProposalRecord) : Prop :=
  ∃ newer p older, page = newer ++ p :: older ∧ p.Obstructs ∧ ∀ q ∈ newer, ¬q.Fits candidate

theorem obstructed_cons {p : ProposalRecord} {rest : List ProposalRecord} :
    Obstructed candidate (p :: rest) ↔
      p.Obstructs ∨ ¬p.Fits candidate ∧ Obstructed candidate rest := by
  constructor
  · rintro ⟨_ | ⟨q, newer⟩, r, older, hpage, hr, hnewer⟩
    · obtain ⟨rfl, -⟩ := List.cons.inj hpage
      exact .inl hr
    · obtain ⟨rfl, rfl⟩ := List.cons.inj hpage
      obtain ⟨hp, hnewer⟩ := List.forall_mem_cons.1 hnewer
      exact .inr ⟨hp, newer, r, older, rfl, hr, hnewer⟩
  · rintro (hp | ⟨hp, newer, r, older, rfl, hr, hnewer⟩)
    · exact ⟨[], p, rest, rfl, hp, by simp⟩
    · exact ⟨p :: newer, r, older, rfl, hr, List.forall_mem_cons.2 ⟨hp, hnewer⟩⟩

theorem selectOpen_filter (h : ¬Obstructed candidate page) :
    selectOpen candidate (page.filter (·.comparable)) = selectOpen candidate page := by
  induction page with
  | nil => rfl
  | cons p rest ih =>
    rw [obstructed_cons, not_or, not_and_or, not_not] at h
    obtain ⟨hclear, hrest⟩ := h
    cases hp : p.comparable with
    | false =>
      -- what is left out was passed over anyway, and so cannot have been what was found
      have hverdict : p.verdict candidate = .ok false := p.verdict_of_not_comparable hp hclear
      have hfits : ¬p.Fits candidate := ProposalRecord.not_holds_of_verdict hverdict
      rw [List.filter_cons_of_neg (by simp [hp]), selectOpen_cons, hverdict,
        ih (hrest.resolve_left hfits)]
      rfl
    | true =>
      rw [List.filter_cons_of_pos hp, selectOpen_cons, selectOpen_cons]
      cases hverdict : p.verdict candidate with
      | error e => rfl
      | ok fits =>
        cases fits with
        | true => rfl
        | false =>
          have hfits : ¬p.Fits candidate := ProposalRecord.not_holds_of_verdict hverdict
          exact ih (hrest.resolve_left hfits)

theorem selectOpen_obstructed (h : Obstructed candidate page) :
    ∃ e, selectOpen candidate page = .error e := by
  induction page with
  | nil => obtain ⟨newer, p, older, hpage, -⟩ := h; simp at hpage
  | cons p rest ih =>
    rw [selectOpen_cons]
    cases hverdict : p.verdict candidate with
    | error e => exact ⟨e, rfl⟩
    | ok fits =>
      rcases obstructed_cons.1 h with hp | ⟨hp, hrest⟩
      · obtain ⟨e, he⟩ := hp.verdict_error candidate
        cases hverdict.symm.trans he
      · cases fits with
        | true => exact absurd (ProposalRecord.verdict_eq_true.1 hverdict) hp
        | false => exact ih hrest

theorem exists_selectOpen (hcandidate : candidate.Canonicalizes)
    (hpage : ∀ p ∈ page, p.comparable = true) :
    ∃ found, selectOpen candidate page = .ok found := by
  induction page with
  | nil => exact ⟨none, rfl⟩
  | cons p rest ih =>
    obtain ⟨hp, hrest⟩ := List.forall_mem_cons.1 hpage
    obtain ⟨fits, hverdict⟩ := ProposalRecord.exists_verdict hcandidate hp
    rw [selectOpen_cons, hverdict]
    cases fits with
    | true => exact ⟨some p, rfl⟩
    | false => exact ih hrest

/-! ### The search as a whole -/

def choose (w : Wallet) (candidate : StoredMessage) (page : List ProposalRecord) :
    Dialogue ResolveError (Option Snapshot) := do
  match ← (Dialogue.ofExcept (selectOpen candidate page)).mapError .incomparable with
  | none => return none
  | some p => return some (← w.snapshot p)

/-- The search that is given `reply` for the page goes on with the exchanges `es` and ends in `o`. -/
def Searches (w : Wallet) (candidate : StoredMessage) (reply : Json) (es : List Exchange)
    (o : Outcome ResolveError (Option Snapshot)) : Prop :=
  Runs (w.findOpen candidate) (.query w.multisig w.recentQuery (.ok reply) :: es) o

theorem searches_iff {reply : Json} (hreply : ProposalRecord.readPage? reply = some page)
    {es : List Exchange} {o : Outcome ResolveError (Option Snapshot)} :
    w.Searches candidate reply es o ↔ Runs (w.choose candidate page) es o :=
  runs_ask_ok hreply

theorem errs_snapshot {p : ProposalRecord} {stored : List StoredMessage}
    (hstored : p.messages.mapM StoredMessage.ofJson = .ok stored) :
    (w.snapshot p).Errs fun e => ∃ source, e = .query (some p.id) source := by
  rw [snapshot, hstored, fetchApprovers]
  refine (errs_done stored).bind fun _ _ _ => Errs.bind ?_ fun _ _ _ => errs_done _
  exact (errs_mapError fun source => ⟨source, rfl⟩).bind fun _ _ _ => errs_done _

theorem runs_choose_cases {es : List Exchange} {o : Outcome ResolveError (Option Snapshot)}
    (h : Runs (w.choose candidate page) es o) :
    (∃ e, es = [] ∧ selectOpen candidate page = .error e ∧ o = .failed (.incomparable e)) ∨
    (selectOpen candidate page = .ok none ∧ o = .done none) ∨
    ∃ p, selectOpen candidate page = .ok (some p) ∧
      ((∃ s, o = .done (some s) ∧ s.id = p.id ∧ s.status = p.status ∧
        p.messages.mapM StoredMessage.ofJson = .ok s.messages) ∨
      (∃ source, o = .failed (.query (some p.id) source)) ∨ o = .stalled) := by
  rw [choose] at h
  cases hselect : selectOpen candidate page with
  | error e =>
    rw [hselect] at h
    cases h
    exact .inl ⟨e, rfl, rfl, rfl⟩
  | ok found =>
    rw [hselect] at h
    cases found with
    | none =>
      cases h
      exact .inr (.inl ⟨rfl, rfl⟩)
    | some p =>
      obtain ⟨-, -, stored, hstored, -⟩ := (selectOpen_ok hselect).1 p rfl
      refine .inr (.inr ⟨p, rfl, ?_⟩)
      have hrun : Runs (w.snapshot p >>= fun s => pure (some s)) es o := h
      rcases hrun.of_bind with ⟨s, es₁, es₂, hsnapshot, hlast, -⟩ | ⟨e, hsnapshot, rfl⟩ | ⟨-, rfl⟩
      · cases hlast
        obtain ⟨hid, hstatus, hmessages, -⟩ := snapshot_done hsnapshot
        exact .inl ⟨s, rfl, hid, hstatus, hmessages⟩
      · obtain ⟨source, rfl⟩ := errs_snapshot hstored es e hsnapshot
        exact .inr (.inl ⟨source, rfl⟩)
      · exact .inr (.inr rfl)

theorem runs_choose_incomparable {es : List Exchange} {e : MessageError} :
    Runs (w.choose candidate page) es (.failed (.incomparable e)) ↔
      es = [] ∧ selectOpen candidate page = .error e := by
  constructor
  · intro h
    rcases runs_choose_cases h with ⟨e', hes, herror, ho⟩ | ⟨-, ho⟩ | ⟨p, -, ⟨s, ho, -⟩ | ⟨_, ho⟩ | ho⟩
    · cases ho
      exact ⟨hes, herror⟩
    all_goals cases ho
  · rintro ⟨rfl, herror⟩
    rw [choose, herror]
    exact .failed _

/-- Unless a proposal obstructs the search, it runs as if all that cannot be compared were left out of
the page. If one does, the search fails over its message, as it never does when they are left out. -/
theorem searches_filter_iff {reply rest : Json}
    (hreply : ProposalRecord.readPage? reply = some page)
    (hrest : ProposalRecord.readPage? rest = some (page.filter (·.comparable))) :
    let same := ∀ es o, w.Searches candidate reply es o ↔ w.Searches candidate rest es o
    (¬Obstructed candidate page → same) ∧
      (candidate.Canonicalizes → (same ↔ ¬Obstructed candidate page) ∧
        ((∃ es e, w.Searches candidate reply es (.failed (.incomparable e))) ↔
          Obstructed candidate page) ∧
        ∀ es e, ¬w.Searches candidate rest es (.failed (.incomparable e))) := by
  intro same
  have hsame : ¬Obstructed candidate page → same := fun h es o => by
    rw [searches_iff hreply, searches_iff hrest, choose, choose, selectOpen_filter h]
  refine ⟨hsame, fun hcandidate => ?_⟩
  have hsafe : ∀ es e, ¬w.Searches candidate rest es (.failed (.incomparable e)) := by
    intro es e h
    have hcomparable : ∀ p ∈ page.filter (·.comparable), p.comparable = true :=
      fun p hp => (List.mem_filter.1 hp).2
    obtain ⟨found, hfound⟩ := exists_selectOpen hcandidate hcomparable
    rw [searches_iff hrest, runs_choose_incomparable, hfound] at h
    cases h.2
  have hfails : Obstructed candidate page →
      ∃ es e, w.Searches candidate reply es (.failed (.incomparable e)) := by
    intro h
    obtain ⟨e, he⟩ := selectOpen_obstructed h
    exact ⟨[], e, (searches_iff hreply).2 (runs_choose_incomparable.2 ⟨rfl, he⟩)⟩
  refine ⟨⟨fun h hobstructed => ?_, hsame⟩, ⟨?_, hfails⟩, hsafe⟩
  · obtain ⟨es, e, hsearch⟩ := hfails hobstructed
    exact hsafe es e ((h es _).1 hsearch)
  · rintro ⟨es, e, hsearch⟩
    by_contra hclear
    exact hsafe es e ((hsame hclear es _).1 hsearch)

end Wallet

namespace ProposalRecord

def garbled (id : UInt64) (status : ProposalStatus) : ProposalRecord :=
  ⟨id, "t", "t", [(StoredMessage.wasmExecute "terra1feed" "begin_proposal" []).toJson], status⟩

def pageJson (page : List ProposalRecord) : Json :=
  .ofEntries [("proposals", .list (page.map toJson))]

theorem readPage?_pageJson (page : List ProposalRecord) : readPage? (pageJson page) = some page :=
  Record.list?_map page read?_toJson

def passedOver : List ProposalRecord :=
  let twice := (garbled 2 .open).messages ++ (garbled 2 .open).messages
  [{ delegation with id := 4 }, garbled 3 .executed, { garbled 2 .open with messages := twice },
    beginProposal 1 .open]

theorem filter_passedOver : passedOver.filter (·.comparable) = [beginProposal 1 .open] := by
  have hall : passedOver.map (·.comparable) = [false, false, false, true] := by decide +kernel
  simp only [passedOver, List.map_cons, List.map_nil, List.cons.injEq, and_true] at hall
  obtain ⟨h₁, h₂, h₃, h₄⟩ := hall
  simp only [passedOver, List.filter, h₁, h₂, h₃, h₄]

end ProposalRecord

open Rehearsal ProposalRecord in
theorem Wallet.searches_passedOver :
    ¬Obstructed .beginProposal passedOver ∧ ∀ es o,
      feedWallet.Searches .beginProposal (pageJson passedOver) es o ↔
        feedWallet.Searches .beginProposal (pageJson [.beginProposal 1 .open]) es o := by
  have hclear : ¬Obstructed .beginProposal passedOver := by
    rintro ⟨newer, p, older, hpage, ⟨hactionable, m, hread, hm⟩, -⟩
    have hp : p ∈ passedOver := hpage ▸ by simp
    simp only [passedOver, List.mem_cons, List.not_mem_nil, or_false] at hp
    rcases hp with rfl | rfl | rfl | rfl
    · cases hread
    · cases hactionable
    · cases hread
    · cases hread
      exact hm (StoredMessage.canonicalizes_of_normalize normalize_beginProposal)
  have hrest := (readPage?_pageJson _).trans (congrArg some filter_passedOver.symm)
  exact ⟨hclear, (searches_filter_iff (readPage?_pageJson passedOver) hrest).1 hclear⟩

def Ledger.garbled : Ledger :=
  { Ledger.buried with proposals := [.beginProposal 1 .open, .garbled 2 .open] }

open Rehearsal in
/-- The newer proposal makes the search fail, where it should find the older one. -/
theorem Wallet.findOpen_garbled :
    let search L := ((feedWallet.findOpen .beginProposal).play Chain.node (.ofLedger L)).outcome
    let comparable := Ledger.garbled.proposals.filter (·.comparable)
    search .garbled = .failed (.incomparable .invalidBase64) ∧
      ∃ s, search { Ledger.garbled with proposals := comparable } = .done (some s) ∧ s.id = 1 := by
  intro search comparable
  have hfails : (search .garbled).failure? = some (.incomparable .invalidBase64) := by
    decide +kernel
  have hfinds : (search { Ledger.garbled with proposals := comparable }).result?.join.map
      Snapshot.id = some 1 := by
    decide +kernel
  obtain ⟨s, hs, hid⟩ := Option.map_eq_some_iff.1 hfinds
  exact ⟨Outcome.eq_failed hfails, s, Outcome.eq_done (Option.join_eq_some_iff.1 hs), hid⟩

end Countersign
