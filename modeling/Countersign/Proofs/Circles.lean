import Countersign.Proofs.Agreement
import Countersign.Proofs.Cursors
import Mathlib

/-! Listings from a contract that may answer anything. Only a key that is handed back at once ends a
listing, so it can go round in circles of two pages and more; where it does not, no cursor is sent twice
and the number of queries is bounded by the number of keys. -/

namespace Countersign.Listing

open Dialogue

variable {α : Type} {l : Listing α}

def page? (l : Listing α) : Exchange → Option (List α)
  | .query _ _ (.ok v) => l.readPage? v
  | _ => none

def handed (l : Listing α) (e : Exchange) : Option String :=
  (l.page? e).bind fun page => page.getLast?.map l.key

def sent (l : Listing α) : Option String → List Exchange → List (Option String)
  | _, [] => []
  | cursor, e :: es => cursor :: l.sent (l.handed e) es

def Sends (l : Listing α) (cursor : Option String) (e : Exchange) : Prop :=
  ∃ reply, e = .query l.contract (l.question cursor) reply

/-- A key is handed back a second time, with another page in between, and the listing goes on. -/
def Returns (l : Listing α) (es : List Exchange) : Prop :=
  ∃ i j key, i + 1 < j ∧ j + 1 < es.length ∧ es[i]?.bind l.handed = some key ∧
    es[j]?.bind l.handed = some key

/-- The pages hold no keys but these. -/
def DrawsOn (l : Listing α) (keys : Finset String) (es : List Exchange) : Prop :=
  ∀ e ∈ es, ∀ page, l.page? e = some page → ∀ a ∈ page, l.key a ∈ keys

def next? (l : Listing α) (cursor : Option String) (e : Exchange) : Option String :=
  (l.page? e).bind fun page =>
    if l.isLast cursor page then none else page.getLast?.map l.key

def turn {σ : Type} (l : Listing α) (node : Node σ) (s : σ) (cursor : Option String) : Exchange :=
  .query l.contract (l.question cursor) (node.answer s l.contract (l.question cursor)).1

/-! ### One page -/

theorem next?_eq_some {cursor : Option String} {e : Exchange} {key : String}
    (h : l.next? cursor e = some key) : l.handed e = some key ∧ some key ≠ cursor := by
  obtain ⟨page, hpage, hnext⟩ := Option.bind_eq_some_iff.1 h
  by_cases hlast : l.isLast cursor page = true
  · rw [if_pos hlast] at hnext
    cases hnext
  · rw [if_neg hlast] at hnext
    refine ⟨by rw [handed, hpage, Option.bind_some, hnext], fun hcursor => hlast ?_⟩
    rw [isLast, hnext, hcursor, beq_self_eq_true, Bool.or_true]

theorem exists_getLast_of_not_isLast {cursor : Option String} {page : List α}
    (h : l.isLast cursor page = false) : ∃ last, page.getLast? = some last := by
  cases hlast : page.getLast? with
  | some last => exact ⟨last, rfl⟩
  | none =>
    rw [List.getLast?_eq_none_iff.1 hlast] at h
    simp [isLast] at h

section run

variable {σ : Type} {node : Node σ} {P : σ → Prop}

theorem play_page (l : Listing α) (node : Node σ) (s : σ) (cursor : Option String) :
    ∃ r : Except QueryError (List α),
      (ask l.contract (l.question cursor) l.readPage?).play node s =
        ⟨.ofExcept r, [l.turn node s cursor], (node.answer s l.contract (l.question cursor)).2⟩ ∧
      r.toOption = l.page? (l.turn node s cursor) := by
  rw [turn]
  cases hreply : (node.answer s l.contract (l.question cursor)).1 with
  | error e => exact ⟨.error e, by simp only [ask, play, hreply, Outcome.ofExcept], rfl⟩
  | ok v =>
    cases hread : l.readPage? v with
    | none =>
      refine ⟨.error .unreadable, ?_, hread.symm⟩
      simp only [ask, play, hreply, hread, Outcome.ofExcept]
    | some page =>
      refine ⟨.ok page, ?_, hread.symm⟩
      simp only [ask, play, hreply, hread, Outcome.ofExcept]

theorem stalled_bind_done {ε β : Type} (d : Dialogue ε α) (f : α → β) (s : σ) :
    ((d >>= fun a => done (f a)).play node s).outcome = .stalled ↔
      (d.play node s).outcome = .stalled := by
  rw [play_bind, Play.bind]
  cases (d.play node s).outcome with
  | done a => exact iff_of_false (by rintro ⟨⟩) (by rintro ⟨⟩)
  | failed e => exact iff_of_false (by rintro ⟨⟩) (by rintro ⟨⟩)
  | stalled => exact iff_of_true rfl rfl

theorem play_after (l : Listing α) (node : Node σ) (s : σ) (pages : ℕ) (cursor : Option String) :
    let e := l.turn node s cursor
    let p := (l.after (pages + 1) cursor).play node s
    (l.next? cursor e = none ∧ p.exchanges = [e] ∧ p.outcome ≠ .stalled) ∨
      ∃ key, l.next? cursor e = some key ∧
        let rest := (l.after pages (some key)).play node
          (node.answer s l.contract (l.question cursor)).2
        p.exchanges = e :: rest.exchanges ∧ (p.outcome = .stalled ↔ rest.outcome = .stalled) := by
  intro e p
  obtain ⟨r, hask, hpage⟩ := play_page l node s cursor
  have hp : p = Play.bind ⟨.ofExcept r, [e], (node.answer s l.contract (l.question cursor)).2⟩ _ :=
    (play_bind node _ _ s).trans (by rw [hask])
  cases r with
  | error error =>
    have hnone : l.page? e = none := hpage.symm
    rw [hp, next?, hnone]
    exact .inl ⟨rfl, rfl, by rintro ⟨⟩⟩
  | ok page =>
    have hsome : l.page? e = some page := hpage.symm
    have hnext : l.next? cursor e =
        if l.isLast cursor page then none else page.getLast?.map l.key := by
      rw [next?, hsome, Option.bind_some]
    cases hlast : l.isLast cursor page with
    | true =>
      simp only [Play.bind, Outcome.ofExcept, hlast] at hp
      rw [hlast] at hnext
      rw [hp]
      exact .inl ⟨hnext, rfl, by rintro ⟨⟩⟩
    | false =>
      obtain ⟨last, hend⟩ := exists_getLast_of_not_isLast hlast
      rw [hlast, hend] at hnext
      simp only [Play.bind, Outcome.ofExcept, hlast, hend] at hp
      refine .inr ⟨l.key last, hnext, ?_⟩
      rw [hp]
      exact ⟨congrArg (e :: ·) (exchanges_bind_done _ _ _), stalled_bind_done _ _ _⟩

theorem stalled_after_iff {s : σ} {pages : ℕ} {cursor : Option String} {key : String}
    (hnext : l.next? cursor (l.turn node s cursor) = some key) :
    ((l.after (pages + 1) cursor).play node s).outcome = .stalled ↔
      ((l.after pages (some key)).play node
        (node.answer s l.contract (l.question cursor)).2).outcome = .stalled := by
  rcases play_after l node s pages cursor with ⟨hlast, -, -⟩ | ⟨key', hnext', -, hstalled⟩
  · rw [hnext] at hlast
    cases hlast
  · obtain rfl : key = key' := Option.some.inj (hnext.symm.trans hnext')
    exact hstalled

/-! ### Runs -/

theorem sends_after (l : Listing α) (node : Node σ) (s : σ) (pages : ℕ) (cursor : Option String) :
    List.Forall₂ l.Sends (l.sent cursor ((l.after pages cursor).play node s).exchanges)
      ((l.after pages cursor).play node s).exchanges := by
  induction pages generalizing cursor s with
  | zero => exact .nil
  | succ pages ih =>
    rcases play_after l node s pages cursor with ⟨-, hes, -⟩ | ⟨key, hnext, hes, -⟩
    · rw [hes]
      exact .cons ⟨_, rfl⟩ .nil
    · rw [hes, sent, (next?_eq_some hnext).1]
      exact .cons ⟨_, rfl⟩ (ih _ (some key))

theorem isChain_sent (l : Listing α) (node : Node σ) (s : σ) (pages : ℕ) (cursor : Option String) :
    (l.sent cursor ((l.after pages cursor).play node s).exchanges).IsChain
      fun c c' => c'.isSome ∧ c' ≠ c := by
  induction pages generalizing cursor s with
  | zero => exact .nil
  | succ pages ih =>
    rcases play_after l node s pages cursor with ⟨-, hes, -⟩ | ⟨key, hnext, hes, -⟩
    · rw [hes]
      exact .singleton _
    · obtain ⟨hhanded, hne⟩ := next?_eq_some hnext
      rw [hes, sent, hhanded]
      refine List.isChain_cons.2 ⟨fun c hc => ?_, ih _ (some key)⟩
      have hcursor : some key = c := by
        cases hrest : ((l.after pages (some key)).play node _).exchanges with
        | nil => rw [hrest] at hc; cases hc
        | cons e es => rw [hrest] at hc; exact Option.some.inj hc
      exact hcursor ▸ ⟨rfl, hne⟩

theorem length_of_stalled {s : σ} {pages : ℕ} {cursor : Option String}
    (h : ((l.after pages cursor).play node s).outcome = .stalled) :
    ((l.after pages cursor).play node s).exchanges.length = pages := by
  induction pages generalizing cursor s with
  | zero => rfl
  | succ pages ih =>
    rcases play_after l node s pages cursor with ⟨-, -, hend⟩ | ⟨key, -, hes, hstalled⟩
    · exact absurd h hend
    · rw [hes, List.length_cons, ih (hstalled.1 h)]

theorem ends_of_ends_fewer {s : σ} {pages : ℕ} {cursor : Option String}
    (h : ((l.after pages cursor).play node s).outcome ≠ .stalled) :
    ((l.after (pages + 1) cursor).play node s).outcome ≠ .stalled := by
  induction pages generalizing cursor s with
  | zero => exact absurd rfl h
  | succ pages ih =>
    rcases play_after l node s (pages + 1) cursor with ⟨-, -, hend⟩ | ⟨key, hnext, -, hstalled⟩
    · exact hend
    · rw [Ne, stalled_after_iff hnext] at h
      rw [Ne, hstalled]
      exact ih h

/-! ### Cursors sent -/

theorem length_sent (l : Listing α) (cursor : Option String) (es : List Exchange) :
    (l.sent cursor es).length = es.length := by
  induction es generalizing cursor with
  | nil => rfl
  | cons e es ih => rw [sent, List.length_cons, List.length_cons, ih]

theorem getElem?_sent (l : Listing α) (cursor : Option String) {es : List Exchange} {i : ℕ}
    (h : i + 1 < es.length) : (l.sent cursor es)[i + 1]? = some (es[i]?.bind l.handed) := by
  induction es generalizing cursor i with
  | nil => exact absurd h (Nat.not_lt_zero _)
  | cons e es ih =>
    rw [sent, List.getElem?_cons_succ]
    cases i with
    | zero =>
      obtain ⟨e', es', rfl⟩ := List.exists_cons_of_length_pos (Nat.lt_of_succ_lt_succ h)
      rfl
    | succ i => rw [ih _ (Nat.lt_of_succ_lt_succ h), List.getElem?_cons_succ]

theorem handed_of_more (l : Listing α) (node : Node σ) (s : σ) (pages : ℕ)
    (cursor : Option String) {i : ℕ}
    (h : i + 1 < ((l.after pages cursor).play node s).exchanges.length) :
    ∃ key, ((l.after pages cursor).play node s).exchanges[i]?.bind l.handed = some key ∧
      (l.sent cursor ((l.after pages cursor).play node s).exchanges)[i]? ≠ some (some key) := by
  have hlength := length_sent l cursor ((l.after pages cursor).play node s).exchanges
  obtain ⟨hsome, hne⟩ := List.isChain_iff_getElem.1 (isChain_sent l node s pages cursor) i
    (hlength.symm ▸ h)
  obtain ⟨key, hkey⟩ := Option.isSome_iff_exists.1 hsome
  have hsent := getElem?_sent l cursor h
  rw [List.getElem?_eq_getElem (hlength.symm ▸ h), hkey] at hsent
  refine ⟨key, (Option.some.inj hsent).symm, fun hsame => hne ?_⟩
  obtain ⟨_, hbefore⟩ := List.getElem?_eq_some_iff.1 hsame
  rw [hkey, hbefore]

/-- A cursor is sent twice exactly when its key comes back later than at once. -/
theorem nodup_sent_iff (l : Listing α) (node : Node σ) (s : σ) (pages : ℕ) :
    (l.sent none ((l.all pages).play node s).exchanges).Nodup ↔
      ¬l.Returns ((l.all pages).play node s).exchanges := by
  generalize hes : ((l.all pages).play node s).exchanges = es
  have hmore : ∀ i, i + 1 < es.length → ∃ key, es[i]?.bind l.handed = some key ∧
      (l.sent none es)[i]? ≠ some (some key) := by
    subst hes
    exact fun i hi => handed_of_more l node s pages none hi
  rw [List.nodup_iff_getElem?_ne_getElem?, length_sent]
  constructor
  · rintro hnodup ⟨i, j, key, hij, hj, hi, hagain⟩
    refine hnodup (i + 1) (j + 1) (Nat.succ_lt_succ (Nat.lt_of_succ_lt hij)) hj ?_
    rw [getElem?_sent l none (by omega), getElem?_sent l none hj, hi, hagain]
  · intro hreturns i j hij hj hsame
    obtain ⟨j, rfl⟩ := Nat.exists_eq_add_one_of_ne_zero (Nat.ne_zero_of_lt hij)
    obtain ⟨key, hkey, hne⟩ := hmore j hj
    rw [getElem?_sent l none hj, hkey] at hsame
    -- neither the cursor just before, nor the first one, which is none
    have hbefore : i ≠ j := fun hi => hne (hi ▸ hsame)
    cases i with
    | zero =>
      obtain ⟨e, es', rfl⟩ := List.exists_cons_of_length_pos (Nat.zero_lt_of_lt hj)
      cases hsame
    | succ i =>
      rw [getElem?_sent l none (by omega)] at hsame
      exact hreturns ⟨i, j, key, by omega, hj, Option.some.inj hsame, hkey⟩

/-! ### Numbers of queries -/

theorem sent_subset {keys : Finset String} {es : List Exchange} (hdraws : l.DrawsOn keys es)
    {cursor : Option String} (hcursor : cursor ∈ insert none (keys.image some)) :
    ∀ c ∈ l.sent cursor es, c ∈ insert none (keys.image some) := by
  induction es generalizing cursor with
  | nil => exact List.forall_mem_nil _
  | cons e es ih =>
    have hhanded : l.handed e ∈ insert none (keys.image some) := by
      cases hkey : l.handed e with
      | none => exact Finset.mem_insert_self _ _
      | some key =>
        obtain ⟨page, hpage, hend⟩ := Option.bind_eq_some_iff.1 hkey
        obtain ⟨last, hlast, rfl⟩ := Option.map_eq_some_iff.1 hend
        exact Finset.mem_insert_of_mem (Finset.mem_image_of_mem _
          (hdraws e List.mem_cons_self page hpage last (List.mem_of_getLast? hlast)))
    have hrest := ih (fun e' he' => hdraws e' (List.mem_cons_of_mem _ he')) hhanded
    exact List.forall_mem_cons.2 ⟨hcursor, hrest⟩

theorem length_le_of_nodup {keys : Finset String} {es : List Exchange} (hdraws : l.DrawsOn keys es)
    (hnodup : (l.sent none es).Nodup) : es.length ≤ keys.card + 1 := by
  have hsubset : (l.sent none es).toFinset ⊆ insert none (keys.image some) := fun c hc =>
    sent_subset hdraws (Finset.mem_insert_self _ _) c (List.mem_toFinset.1 hc)
  calc
    es.length = (l.sent none es).toFinset.card := by
      rw [List.toFinset_card_of_nodup hnodup, length_sent]
    _ ≤ (insert none (keys.image some)).card := Finset.card_le_card hsubset
    _ ≤ (keys.image some).card + 1 := Finset.card_insert_le _ _
    _ ≤ keys.card + 1 := Nat.succ_le_succ Finset.card_image_le

/-! ### Contracts that answer equal queries equally -/

theorem ends_after_key (hsteady : node.Steady P) {s t : σ} (hs : P s) (ht : P t) {n : ℕ}
    {cursor : Option String} {key : String} (hnext : l.next? cursor (l.turn node t cursor) = some key)
    (h : ((l.after (n + 1) cursor).play node s).outcome ≠ .stalled) :
    ((l.after n (some key)).play node s).outcome ≠ .stalled := by
  have hturn : l.turn node t cursor = l.turn node s cursor := by
    rw [turn, turn, hsteady.equal t s _ _ ht hs]
  have hkept := hsteady.keeps s l.contract (l.question cursor) hs
  have hsame := (asksOnly_after l n (some key)).play_eq hsteady hkept hs
  rwa [Ne, stalled_after_iff (hturn ▸ hnext), hsame.1] at h

theorem ends_from_sent (hsteady : node.Steady P) {s : σ} (hs : P s) {n : ℕ} (m : ℕ)
    {cursor : Option String} {t : σ} (ht : P t)
    (h : ((l.after n cursor).play node s).outcome ≠ .stalled) :
    ∀ c ∈ l.sent cursor ((l.after m cursor).play node t).exchanges,
      ((l.after n c).play node s).outcome ≠ .stalled := by
  -- after each key one page less suffices, so `n` still does
  induction m generalizing cursor t with
  | zero => exact List.forall_mem_nil _
  | succ m ih =>
    rcases play_after l node t m cursor with ⟨-, hes, -⟩ | ⟨key, hnext, hes, -⟩
    · rw [hes]
      exact List.forall_mem_singleton.2 h
    · rw [hes, sent, (next?_eq_some hnext).1]
      refine List.forall_mem_cons.2 ⟨h, ?_⟩
      have hkept := hsteady.keeps t l.contract (l.question cursor) ht
      cases n with
      | zero => exact absurd rfl h
      | succ n => exact ih hkept (ends_of_ends_fewer (ends_after_key hsteady hs ht hnext h))

theorem nodup_sent_of_ends (hsteady : node.Steady P) {s : σ} (hs : P s) {n : ℕ} (m : ℕ)
    {cursor : Option String} {t : σ} (ht : P t)
    (h : ((l.after n cursor).play node s).outcome ≠ .stalled) :
    (l.sent cursor ((l.after m cursor).play node t).exchanges).Nodup := by
  induction n generalizing cursor m t with
  | zero => exact absurd rfl h
  | succ n ih =>
    by_cases hfewer : ((l.after n cursor).play node s).outcome = .stalled
    · cases m with
      | zero => exact .nil
      | succ m =>
        rcases play_after l node t m cursor with ⟨-, hes, -⟩ | ⟨key, hnext, hes, -⟩
        · rw [hes]
          exact List.nodup_singleton _
        · have hkept := hsteady.keeps t l.contract (l.question cursor) ht
          have hend := ends_after_key hsteady hs ht hnext h
          rw [hes, sent, (next?_eq_some hnext).1]
          -- from the cursors to come the listing ends within `n` pages, but not from this one
          refine List.nodup_cons.2 ⟨fun hmem => ?_, ih m hkept hend⟩
          exact ends_from_sent hsteady hs m hkept hend cursor hmem hfewer
    · exact ih m ht hfewer

/-! ### Contracts that give their pages in order -/

theorem forall_exchanges {Q : Exchange → Prop} (hkeeps : node.Keeps P)
    (hturn : ∀ s cursor, P s → Q (l.turn node s cursor)) (pages : ℕ) (cursor : Option String) {s : σ}
    (hs : P s) : ∀ e ∈ ((l.after pages cursor).play node s).exchanges, Q e := by
  induction pages generalizing cursor s with
  | zero => exact List.forall_mem_nil _
  | succ pages ih =>
    rcases play_after l node s pages cursor with ⟨-, hes, -⟩ | ⟨key, -, hes, -⟩
    · rw [hes]
      exact List.forall_mem_singleton.2 (hturn s cursor hs)
    · rw [hes]
      exact List.forall_mem_cons.2
        ⟨hturn s cursor hs, ih (some key) (hkeeps s l.contract (l.question cursor) hs)⟩

theorem drawsOn_of_served {entries : List α} {limit : ℕ} (hkeeps : node.Keeps P)
    (hserved : l.Served node P limit entries) (pages : ℕ) {s : σ} (hs : P s) :
    l.DrawsOn (entries.map l.key).toFinset ((l.all pages).play node s).exchanges := by
  refine forall_exchanges hkeeps (fun t cursor ht page hpage a ha => ?_) pages none hs
  obtain ⟨v, hv, hread⟩ := hserved cursor t ht
  have hpage' : l.readPage? v = some page := by
    simpa only [turn, page?, hv] using hpage
  obtain rfl : page = (l.rest entries cursor).take limit :=
    Option.some.inj (hpage'.symm.trans hread)
  exact List.mem_toFinset.2 (List.mem_map_of_mem (mem_rest.1 (List.mem_of_mem_take ha)).1)

/-- Within one listing the queries are those after the keys handed back. No cursor is sent twice exactly
when no key is handed back a second time but at once. Where the pages draw on finitely many keys, the
listing then ends within one page more than there are keys; and a contract that answers equal queries
equally is asked for ever exactly when a key comes back so. -/
theorem unrepeated_iff (l : Listing α) (node : Node σ) (s : σ) :
    (∀ pages, let es := ((l.all pages).play node s).exchanges
      List.Forall₂ l.Sends (l.sent none es) es ∧ ((l.sent none es).Nodup ↔ ¬l.Returns es)) ∧
    ∀ keys, (∀ pages, l.DrawsOn keys ((l.all pages).play node s).exchanges) →
      (∀ pages, ¬l.Returns ((l.all pages).play node s).exchanges →
        ((l.all pages).play node s).exchanges.length ≤ keys.card + 1 ∧
        (keys.card + 1 < pages → ((l.all pages).play node s).outcome ≠ .stalled)) ∧
      ∀ P, node.Steady P → P s →
        ((∃ pages, ((l.all pages).play node s).outcome ≠ .stalled) ↔
          ∀ pages, ¬l.Returns ((l.all pages).play node s).exchanges) := by
  refine ⟨fun pages => ⟨sends_after l node s pages none, nodup_sent_iff l node s pages⟩, ?_⟩
  intro keys hdraws
  have hbounded : ∀ pages, ¬l.Returns ((l.all pages).play node s).exchanges →
      ((l.all pages).play node s).exchanges.length ≤ keys.card + 1 ∧
      (keys.card + 1 < pages → ((l.all pages).play node s).outcome ≠ .stalled) := by
    intro pages hreturns
    have hlength := length_le_of_nodup (hdraws pages) ((nodup_sent_iff l node s pages).2 hreturns)
    refine ⟨hlength, fun hpages hstalled => ?_⟩
    have hall := length_of_stalled hstalled
    exact absurd (hpages.trans_eq hall.symm) hlength.not_gt
  refine ⟨hbounded, fun P hsteady hs => ⟨?_, fun hreturns => ?_⟩⟩
  · rintro ⟨n, hend⟩ pages
    exact (nodup_sent_iff l node s pages).1 (nodup_sent_of_ends hsteady hs pages hs hend)
  · exact ⟨keys.card + 2, (hbounded _ (hreturns _)).2 (Nat.lt_succ_self _)⟩

end run

open Rehearsal

theorem unrepeated_divided :
    let l := Wallet.members { feedWallet with pageSize := 1 }
    let chain := Chain.ofLedger .divided
    let run (pages : ℕ) := (l.all pages).play Chain.node chain
    Chain.node.Steady (· = chain) ∧
      (∀ pages, l.DrawsOn (Ledger.divided.members.map l.key).toFinset (run pages).exchanges) ∧
      (run 5).outcome ≠ .stalled ∧
      ∀ pages, (l.sent none (run pages).exchanges).Nodup ∧ (run pages).exchanges.length ≤ 5 := by
  intro l chain run
  have hsteady : Chain.node.Steady (· = chain) :=
    ⟨Chain.keeps chain, fun _ _ _ _ hs ht => by rw [hs, ht]⟩
  have hserved : l.Served Chain.node (· = chain) l.fullPage Ledger.divided.members :=
    (Chain.reports Ledger.records_divided { feedWallet with pageSize := 1 }).members
  have hdraws : ∀ pages,
      l.DrawsOn (Ledger.divided.members.map l.key).toFinset (run pages).exchanges :=
    fun pages => drawsOn_of_served hsteady.keeps hserved pages rfl
  have hdone : (run 5).outcome ≠ .stalled := by
    have hall := (ends_all hsteady.keeps hserved (by decide) (by decide +kernel) 5 chain rfl).2
    rw [if_pos (by decide)] at hall
    rw [hall]
    rintro ⟨⟩
  obtain ⟨hqueries, hfinite⟩ := unrepeated_iff l Chain.node chain
  obtain ⟨hbounded, hforever⟩ := hfinite _ hdraws
  have hreturns : ∀ pages, ¬l.Returns (run pages).exchanges :=
    (hforever _ hsteady rfl).1 ⟨5, hdone⟩
  have hcount : (Ledger.divided.members.map l.key).toFinset.card + 1 = 5 := by decide +kernel
  exact ⟨hsteady, hdraws, hdone, fun pages =>
    ⟨(hqueries pages).2.2 (hreturns pages), hcount ▸ (hbounded pages (hreturns pages)).1⟩⟩

def single : Listing Member :=
  Wallet.members { feedWallet with pageSize := 1 }

def memberPage (addresses : List String) : QueryReply :=
  .ok (.ofEntries [("members", .list (addresses.map fun address => (Member.mk address 1).toJson))])

def seesaw : Node Unit where
  answer s _ question :=
    let cursor := (Chain.queryParts? question).bind fun (_, body) => (body.getD "start_after").text?
    (memberPage [if cursor = some "terra1alice" then "terra1bob" else "terra1alice"], s)
  accept s _ := (.error (.transport "read only"), s)

theorem drawsOn_seesaw (pages : ℕ) :
    single.DrawsOn {"terra1alice", "terra1bob"} ((single.all pages).play seesaw ()).exchanges := by
  refine forall_exchanges (P := fun _ => True) (fun _ _ _ _ => trivial) ?_ pages none trivial
  intro _ cursor _ page hpage a ha
  have hread : single.page? (single.turn seesaw () cursor) = some [⟨"terra1bob", 1⟩] ∨
      single.page? (single.turn seesaw () cursor) = some [⟨"terra1alice", 1⟩] := by
    simp only [turn, seesaw, memberPage, page?]
    split_ifs
    · exact .inl (by decide +kernel)
    · exact .inr (by decide +kernel)
  rcases hread with hread | hread
  · obtain rfl : page = [⟨"terra1bob", 1⟩] := Option.some.inj (hpage.symm.trans hread)
    obtain rfl := List.mem_singleton.1 ha
    decide
  · obtain rfl : page = [⟨"terra1alice", 1⟩] := Option.some.inj (hpage.symm.trans hread)
    obtain rfl := List.mem_singleton.1 ha
    decide

theorem stalled_seesaw (pages : ℕ) :
    ((single.after pages (some "terra1alice")).play seesaw ()).outcome = .stalled ∧
      ((single.after pages (some "terra1bob")).play seesaw ()).outcome = .stalled := by
  induction pages with
  | zero => exact ⟨rfl, rfl⟩
  | succ pages ih =>
    have halice : single.next? (some "terra1alice") (single.turn seesaw () (some "terra1alice")) =
        some "terra1bob" := by decide +kernel
    have hbob : single.next? (some "terra1bob") (single.turn seesaw () (some "terra1bob")) =
        some "terra1alice" := by decide +kernel
    exact ⟨(stalled_after_iff halice).2 ih.2, (stalled_after_iff hbob).2 ih.1⟩

def revisited : Rehearsal :=
  { chain := { threshold := oneApproval } : Rehearsal }.prepareAnswers "list_members"
    [memberPage ["terra1alice"], memberPage ["terra1bob"], memberPage ["terra1alice"], memberPage []]

/-- With the key of alice handed back a second time, the listing goes on after it a second time; and a
contract with two members can keep it going for ever. -/
theorem sent_twice :
    let p := (single.all 4).play Rehearsal.node revisited
    p.outcome.result?.map (·.map single.key) = some ["terra1alice", "terra1bob", "terra1alice"] ∧
      single.sent none p.exchanges =
        [none, some "terra1alice", some "terra1bob", some "terra1alice"] ∧
      ∀ pages, let p := (single.all pages).play seesaw ()
        single.DrawsOn {"terra1alice", "terra1bob"} p.exchanges ∧ p.outcome = .stalled := by
  refine ⟨by decide +kernel, by decide +kernel, fun pages => ⟨drawsOn_seesaw pages, ?_⟩⟩
  cases pages with
  | zero => rfl
  | succ pages =>
    have hfirst : single.next? none (single.turn seesaw () none) = some "terra1alice" := by
      decide +kernel
    exact (stalled_after_iff hfirst).2 (stalled_seesaw pages).1

end Countersign.Listing
