import Countersign.Proofs.ByteOrder
import Countersign.Proofs.Pages
import Countersign.Proofs.ReferenceDecision
import Mathlib

/-! How many queries a listing is read with, and with which cursors, from a contract that cuts its
pages in the order of the bytes of the keys. -/

namespace Countersign.Listing

open Dialogue Text

variable {α : Type}

def Ascending (l : Listing α) (items : List α) : Prop :=
  items.Pairwise fun a b => bytes (l.key a) < bytes (l.key b)

def IsPage (l : Listing α) (entries : List α) (limit : ℕ) (cursor : Option String)
    (page : List α) : Prop :=
  ∃ later : List α,
    later.Perm (entries.filter fun a => cursor.all fun c => bytes c < bytes (l.key a)) ∧
      l.Ascending later ∧ page = later.take limit

/-- Each question of the listing is answered with its page. -/
def Paged {σ : Type} (l : Listing α) (node : Node σ) (P : σ → Prop) (limit : ℕ)
    (entries : List α) : Prop :=
  ∀ cursor, ∃ page, l.IsPage entries limit cursor page ∧
    node.Tells P l.contract (l.question cursor) l.readPage? page

/-- The keys of the entries number `fullPage`, `2 * fullPage` and so on. -/
def turns (l : Listing α) (items : List α) : List String :=
  (List.range (items.length / l.fullPage)).filterMap fun turned =>
    items[(turned + 1) * l.fullPage - 1]?.map l.key

def cursors (l : Listing α) (items : List α) : List (Option String) :=
  none :: (l.turns items).map some

def Asks (l : Listing α) (cursor : Option String) (e : Exchange) : Prop :=
  ∃ v, e = .query l.contract (l.question cursor) (.ok v)

variable {l : Listing α} {entries items : List α}

/-! ### Pages -/

theorem ascending_iff : l.Ascending items ↔ items.Pairwise fun a b => l.key a < l.key b := by
  simp only [Ascending, bytes_lt_bytes]

theorem Ascending.eq_of_perm {items' : List α} (h : l.Ascending items) (h' : l.Ascending items')
    (hperm : items.Perm items') : items = items' :=
  hperm.eq_of_pairwise (fun _ _ _ _ hab hba => absurd hba (List.lt_asymm hab)) h h'

theorem rest_perm (cursor : Option String) :
    (l.rest entries cursor).Perm
      (entries.filter fun a => cursor.all fun c => bytes c < bytes (l.key a)) := by
  simp only [bytes_lt_bytes]
  exact (l.ordered_perm entries).filter _

theorem ascending_rest (hkeys : (entries.map l.key).Nodup) (cursor : Option String) :
    l.Ascending (l.rest entries cursor) :=
  ascending_iff.2 ((ascending_ordered hkeys).filter _)

theorem isPage_iff (hkeys : (entries.map l.key).Nodup) {limit : ℕ} {cursor : Option String}
    {page : List α} :
    l.IsPage entries limit cursor page ↔ page = (l.rest entries cursor).take limit := by
  have hascending := ascending_rest hkeys cursor
  constructor
  · rintro ⟨later, hperm, hlater, rfl⟩
    rw [hlater.eq_of_perm hascending (hperm.trans (rest_perm cursor).symm)]
  · intro hpage
    exact ⟨_, rest_perm cursor, hascending, hpage⟩

theorem paged_iff_served {σ : Type} {node : Node σ} {P : σ → Prop} {limit : ℕ}
    (hkeys : (entries.map l.key).Nodup) :
    l.Paged node P limit entries ↔ l.Served node P limit entries := by
  simp only [Paged, Served, isPage_iff hkeys, exists_eq_left]

/-! ### Cursors -/

theorem turns_of_short (h : items.length < l.fullPage) : l.turns items = [] := by
  rw [turns, Nat.div_eq_of_lt h, List.range_zero, List.filterMap_nil]

theorem turns_of_full {last : α} (hfull : 0 < l.fullPage) (hlong : l.fullPage ≤ items.length)
    (hlast : (items.take l.fullPage).getLast? = some last) :
    l.turns items = l.key last :: l.turns (items.drop l.fullPage) := by
  have hcount : items.length / l.fullPage = (items.drop l.fullPage).length / l.fullPage + 1 := by
    rw [List.length_drop, Nat.div_eq_sub_div hfull hlong]
  have hfirst : items[(0 + 1) * l.fullPage - 1]? = some last := by
    rw [← hlast, List.getLast?_eq_getElem?, List.length_take, min_eq_left hlong,
      List.getElem?_take_of_lt (Nat.sub_lt hfull one_pos), Nat.zero_add, Nat.one_mul]
  have hlater : ∀ turned, items[(turned + 1 + 1) * l.fullPage - 1]? =
      (items.drop l.fullPage)[(turned + 1) * l.fullPage - 1]? := by
    intro turned
    have hpos : 0 < (turned + 1) * l.fullPage := Nat.mul_pos turned.succ_pos hfull
    have hindex : (turned + 1 + 1) * l.fullPage - 1 =
        l.fullPage + ((turned + 1) * l.fullPage - 1) := by
      rw [Nat.succ_mul (turned + 1), Nat.add_comm, Nat.add_sub_assoc hpos]
    rw [List.getElem?_drop, hindex]
  rw [turns, turns, hcount, List.range_succ_eq_map, List.filterMap_cons_some (by rw [hfirst]; rfl),
    List.filterMap_map]
  simp only [Function.comp_def, Nat.succ_eq_add_one, hlater]

/-! ### Queries -/

section queries

variable {σ : Type} {node : Node σ} {P : σ → Prop}

theorem play_ask {contract : String} {question v : Json} {read : Json → Option α} {a : α} {s : σ}
    (hv : (node.answer s contract question).1 = .ok v) (hread : read v = some a) :
    (ask contract question read).play node s =
      ⟨.done a, [.query contract question (.ok v)], (node.answer s contract question).2⟩ := by
  simp only [ask, play, hv, hread]

theorem exchanges_bind {ε β : Type} {d : Dialogue ε α} {f : α → Dialogue ε β} {a : α}
    {es : List Exchange} {s s' : σ} (hd : d.play node s = ⟨.done a, es, s'⟩) :
    ((d >>= f).play node s).exchanges = es ++ ((f a).play node s').exchanges := by
  rw [play_bind, hd]
  rfl

theorem exchanges_bind_done {ε β : Type} (d : Dialogue ε α) (f : α → β) (s : σ) :
    ((d >>= fun a => done (f a)).play node s).exchanges = (d.play node s).exchanges := by
  rw [play_bind, Play.bind]
  cases (d.play node s).outcome with
  | done a => exact List.append_nil _
  | failed e => rfl
  | stalled => rfl

theorem exchanges_after {page : List α} {v : Json} {pages : ℕ} {cursor : Option String} {s : σ}
    (hv : (node.answer s l.contract (l.question cursor)).1 = .ok v)
    (hread : l.readPage? v = some page) :
    ((l.after (pages + 1) cursor).play node s).exchanges =
      .query l.contract (l.question cursor) (.ok v) ::
        if l.isLast cursor page then [] else
          ((l.after pages (page.getLast?.map l.key)).play node
            (node.answer s l.contract (l.question cursor)).2).exchanges := by
  rw [after, exchanges_bind (play_ask hv hread), List.singleton_append]
  cases l.isLast cursor page with
  | true => rfl
  | false => exact congrArg (List.cons _) (exchanges_bind_done _ _ _)

theorem asks_after (hkeeps : node.Keeps P) (hserved : l.Served node P l.fullPage entries)
    (hfull : 0 < l.fullPage) (hkeys : (entries.map l.key).Nodup) (pages : ℕ)
    (cursor : Option String)
    (hpages : (l.rest entries cursor).length / l.fullPage < pages) {s : σ} (hs : P s) :
    List.Forall₂ l.Asks (cursor :: (l.turns (l.rest entries cursor)).map some)
      ((l.after pages cursor).play node s).exchanges := by
  induction pages generalizing cursor s with
  | zero => exact absurd hpages (Nat.not_lt_zero _)
  | succ pages ih =>
    obtain ⟨v, hv, hread⟩ := hserved cursor s hs
    rw [exchanges_after hv hread]
    refine .cons ⟨v, rfl⟩ ?_
    by_cases hshort : (l.rest entries cursor).length < l.fullPage
    · have hlast : l.isLast cursor ((l.rest entries cursor).take l.fullPage) = true := by
        rw [List.take_of_length_le hshort.le, isLast, decide_eq_true hshort, Bool.true_or,
          Bool.true_or]
      rw [if_pos hlast, turns_of_short hshort]
      exact .nil
    · have hlong := not_lt.1 hshort
      obtain ⟨last, hlast, hmore⟩ := exists_last_of_full hfull hlong
      have hnext : l.rest entries (some (l.key last)) = (l.rest entries cursor).drop l.fullPage :=
        rest_after_page hkeys hlast
      have hfewer : (l.rest entries (some (l.key last))).length / l.fullPage < pages := by
        rw [Nat.div_eq_sub_div hfull hlong] at hpages
        rw [hnext, List.length_drop]
        exact Nat.lt_of_succ_lt_succ hpages
      have htail := ih (some (l.key last)) hfewer (hkeeps s l.contract (l.question cursor) hs)
      rw [hmore, if_neg Bool.false_ne_true, hlast, turns_of_full hfull hlong hlast, ← hnext]
      exact htail

end queries

theorem length_turns (hfull : 0 < l.fullPage) (items : List α) :
    (l.turns items).length = items.length / l.fullPage := by
  have hsome : ∀ turned ∈ List.range (items.length / l.fullPage),
      (items[(turned + 1) * l.fullPage - 1]?.map l.key).isSome := by
    intro turned hturned
    have hpos : 0 < (turned + 1) * l.fullPage := Nat.mul_pos turned.succ_pos hfull
    have hle : (turned + 1) * l.fullPage ≤ items.length :=
      (Nat.le_div_iff_mul_le hfull).1 (List.mem_range.1 hturned)
    rw [Option.isSome_map, isSome_getElem?]
    exact lt_of_lt_of_le (Nat.sub_lt hpos one_pos) hle
  rw [turns, List.filterMap_length_eq_length.2 hsome, List.length_range]

/-- A listing of `n` entries is read whole and in ascending order, with `n / fullPage + 1` queries:
one without a cursor, and one after each of the entries that end a full page. -/
theorem all_paged {σ : Type} {node : Node σ} {P : σ → Prop} {pages : ℕ} {s : σ}
    (hkeeps : node.Keeps P) (hpaged : l.Paged node P l.fullPage entries) (hfull : 0 < l.fullPage)
    (hkeys : (entries.map l.key).Nodup) (hpages : entries.length / l.fullPage < pages) (hs : P s) :
    ∃ found, ((l.all pages).play node s).outcome = .done found ∧ found.Perm entries ∧
      l.Ascending found ∧
      List.Forall₂ l.Asks (l.cursors found) ((l.all pages).play node s).exchanges ∧
      ((l.all pages).play node s).exchanges.length = entries.length / l.fullPage + 1 := by
  have hserved := (paged_iff_served hkeys).1 hpaged
  have hperm := l.ordered_perm entries
  have hall := (ends_all hkeeps hserved hfull hkeys pages s hs).2
  rw [if_pos hpages] at hall
  have hrest : l.rest entries none = l.ordered entries := rest_none
  have hasks := asks_after hkeeps hserved hfull hkeys pages none
    (by rwa [hrest, hperm.length_eq]) hs
  rw [hrest] at hasks
  have hcount : (l.cursors (l.ordered entries)).length = entries.length / l.fullPage + 1 := by
    rw [cursors, List.length_cons, List.length_map, length_turns hfull, hperm.length_eq]
  exact ⟨l.ordered entries, hall, hperm, ascending_iff.2 (ascending_ordered hkeys), hasks,
    hasks.length_eq.symm.trans hcount⟩

theorem all_paged_divided :
    let w : Wallet := { Rehearsal.feedWallet with pageSize := 2 }
    let chain := Chain.ofLedger .divided
    let p := (w.members.all 3).play Chain.node chain
    w.members.Paged Chain.node (· = chain) w.members.fullPage Ledger.divided.members ∧
      p.outcome = .done
        [⟨"terra1alice", 1⟩, ⟨"terra1bob", 1⟩, ⟨"terra1carol", 1⟩, ⟨"terra1dave", 1⟩] ∧
      List.Forall₂ w.members.Asks [none, some "terra1bob", some "terra1dave"] p.exchanges ∧
      p.exchanges.length = 4 / 2 + 1 := by
  intro w chain p
  have hkeys : (Ledger.divided.members.map w.members.key).Nodup := by decide +kernel
  have hpaged : w.members.Paged Chain.node (· = chain) w.members.fullPage Ledger.divided.members :=
    (paged_iff_served hkeys).2 (Chain.reports Ledger.records_divided w).members
  obtain ⟨found, hdone, hperm, hascending, hasks, hcount⟩ :=
    all_paged (Chain.keeps chain) hpaged (by decide) hkeys (by decide : 4 / 2 < 3) rfl
  have hfound : found =
      [⟨"terra1alice", 1⟩, ⟨"terra1bob", 1⟩, ⟨"terra1carol", 1⟩, ⟨"terra1dave", 1⟩] :=
    hascending.eq_of_perm (ascending_iff.2 (by decide +kernel))
      (hperm.trans (by decide +kernel))
  have hcursors : w.members.cursors found =
      [none, some "terra1bob", some "terra1dave"] := by
    rw [hfound]
    decide +kernel
  rw [hcursors] at hasks
  rw [hfound] at hdone
  exact ⟨hpaged, hdone, hasks, hcount⟩

end Countersign.Listing
