import Countersign.Node.Listing
import Countersign.Proofs.Play
import Mathlib

/-! A listing read page by page from a node that gives each page as the first entries, in ascending
key order, after the cursor. Every entry is read, whatever the size of a page. -/

namespace Countersign.Listing

open Dialogue

variable {α : Type}

def ordered (l : Listing α) (entries : List α) : List α :=
  entries.insertionSort fun a b => l.key a ≤ l.key b

def rest (l : Listing α) (entries : List α) (cursor : Option String) : List α :=
  (l.ordered entries).filter fun a => cursor.all (· < l.key a)

/-- The node gives at most `limit` entries a page. -/
def Served {σ : Type} (l : Listing α) (node : Node σ) (P : σ → Prop) (limit : ℕ)
    (entries : List α) : Prop :=
  ∀ cursor, node.Tells P l.contract (l.question cursor) l.readPage?
    ((l.rest entries cursor).take limit)

variable {l : Listing α} {entries : List α}

theorem rest_none : l.rest entries none = l.ordered entries := by
  simp only [rest, Option.all_none, List.filter_true]

theorem mem_rest {cursor : Option String} {a : α} :
    a ∈ l.rest entries cursor ↔ a ∈ entries ∧ ∀ c, cursor = some c → c < l.key a := by
  simp only [rest, ordered, List.mem_filter, List.mem_insertionSort, Option.all_eq_true,
    decide_eq_true_eq]

theorem ordered_perm (l : Listing α) (entries : List α) : (l.ordered entries).Perm entries :=
  List.perm_insertionSort _ entries

theorem ascending_ordered (h : (entries.map l.key).Nodup) :
    (l.ordered entries).Pairwise fun a b => l.key a < l.key b := by
  have htotal : Std.Total fun a b : α => l.key a ≤ l.key b := ⟨fun a b => le_total _ _⟩
  have htrans : IsTrans α fun a b => l.key a ≤ l.key b := ⟨fun _ _ _ => le_trans⟩
  have hsorted : (l.ordered entries).Pairwise fun a b => l.key a ≤ l.key b :=
    List.pairwise_insertionSort _ _
  have hnodup : ((l.ordered entries).map l.key).Nodup :=
    ((l.ordered_perm entries).map l.key).nodup_iff.2 h
  exact (hsorted.and (List.pairwise_map.1 hnodup)).imp fun ⟨hle, hne⟩ => lt_of_le_of_ne hle hne

theorem filter_after_page {key : α → String} {items : List α} {last : α} {limit : ℕ}
    (h : items.Pairwise fun a b => key a < key b) (hlast : (items.take limit).getLast? = some last) :
    items.filter (fun a => key last < key a) = items.drop limit := by
  obtain ⟨before, hpage⟩ := List.getLast?_eq_some_iff.1 hlast
  rw [← List.take_append_drop limit items, hpage] at h
  obtain ⟨hbefore, -, hafter⟩ := List.pairwise_append.1 h
  have hbelow : ∀ a ∈ before ++ [last], ¬key last < key a := by
    intro a ha
    rcases List.mem_append.1 ha with ha | ha
    · exact ((List.pairwise_append.1 hbefore).2.2 a ha last (by simp)).asymm
    · rw [List.mem_singleton.1 ha]
      exact lt_irrefl _
  have habove : ∀ a ∈ items.drop limit, key last < key a := hafter last (by simp)
  calc
    items.filter (fun a => key last < key a)
      = (items.take limit).filter (fun a => key last < key a) ++
          (items.drop limit).filter (fun a => key last < key a) := by
        rw [← List.filter_append, List.take_append_drop]
    _ = items.drop limit := by
        rw [hpage, List.filter_eq_nil_iff.2 (by simpa only [decide_eq_true_eq] using hbelow),
          List.filter_eq_self.2 (by simpa only [decide_eq_true_eq] using habove), List.nil_append]

theorem rest_beyond {cursor : Option String} {a : α} (ha : a ∈ l.rest entries cursor) :
    l.rest entries (some (l.key a)) =
      (l.rest entries cursor).filter fun b => l.key a < l.key b := by
  have hbeyond : ∀ b, l.key a < l.key b → ∀ c, cursor = some c → c < l.key b :=
    fun b hb c hc => ((mem_rest.1 ha).2 c hc).trans hb
  rw [rest, rest, List.filter_filter]
  refine List.filter_congr fun b _ => ?_
  rw [Option.all_some, eq_comm, Bool.and_eq_left_iff_imp]
  simp only [decide_eq_true_eq, Option.all_eq_true]
  exact hbeyond b

theorem rest_after_page (h : (entries.map l.key).Nodup) {cursor : Option String} {limit : ℕ}
    {last : α} (hlast : ((l.rest entries cursor).take limit).getLast? = some last) :
    l.rest entries (some (l.key last)) = (l.rest entries cursor).drop limit := by
  have hascending : (l.rest entries cursor).Pairwise fun a b => l.key a < l.key b :=
    (ascending_ordered h).filter _
  rw [rest_beyond (List.mem_of_mem_take (List.mem_of_getLast? hlast)),
    filter_after_page hascending hlast]

theorem exists_last_of_full {cursor : Option String} (hfull : 0 < l.fullPage)
    (hlong : l.fullPage ≤ (l.rest entries cursor).length) :
    ∃ last, ((l.rest entries cursor).take l.fullPage).getLast? = some last ∧
      l.isLast cursor ((l.rest entries cursor).take l.fullPage) = false := by
  have hlen : ((l.rest entries cursor).take l.fullPage).length = l.fullPage := by
    rw [List.length_take, min_eq_left hlong]
  have hne : (l.rest entries cursor).take l.fullPage ≠ [] :=
    List.ne_nil_of_length_pos (hfull.trans_eq hlen.symm)
  have hlast := List.getLast?_eq_some_getLast hne
  have hbeyond := (mem_rest.1 (List.mem_of_mem_take (List.mem_of_getLast? hlast))).2
  have hcursor : some (l.key (List.getLast _ hne)) ≠ cursor := fun hc =>
    lt_irrefl _ (hbeyond _ hc.symm)
  refine ⟨_, hlast, ?_⟩
  rw [isLast, hlast, hlen, Option.map_some, List.isEmpty_eq_false_iff.2 hne]
  simpa using hcursor

theorem ends_after {σ : Type} {node : Node σ} {P : σ → Prop} (hkeeps : node.Keeps P)
    (hserved : l.Served node P l.fullPage entries) (hfull : 0 < l.fullPage)
    (hkeys : (entries.map l.key).Nodup) (pages : ℕ) (cursor : Option String) :
    (l.after pages cursor).Ends node P
      (if (l.rest entries cursor).length / l.fullPage < pages then .done (l.rest entries cursor)
        else .stalled) := by
  induction pages generalizing cursor with
  | zero => exact fun _ hs => ⟨hs, rfl⟩
  | succ pages ih =>
    rw [after]
    refine (ends_ask hkeeps (hserved cursor)).bind ?_
    by_cases hshort : (l.rest entries cursor).length < l.fullPage
    · have hlast : l.isLast cursor (l.rest entries cursor) = true := by simp [isLast, hshort]
      rw [List.take_of_length_le hshort.le, if_pos hlast, Nat.div_eq_of_lt hshort,
        if_pos pages.succ_pos]
      exact ends_done _
    · obtain ⟨last, hlast, hmore⟩ := exists_last_of_full hfull (not_lt.1 hshort)
      have htail := ih (some (l.key last))
      rw [rest_after_page hkeys hlast, List.length_drop] at htail
      rw [if_neg (by simp [hmore]), hlast, Option.map_some,
        Nat.div_eq_sub_div hfull (not_lt.1 hshort)]
      by_cases hmany : ((l.rest entries cursor).length - l.fullPage) / l.fullPage < pages
      · rw [if_pos hmany] at htail
        rw [if_pos (by omega)]
        refine htail.bind ?_
        rw [List.take_append_drop]
        exact ends_done _
      · rw [if_neg hmany] at htail
        rw [if_neg (by omega)]
        exact htail.bind_stalled

theorem ends_all {σ : Type} {node : Node σ} {P : σ → Prop} (hkeeps : node.Keeps P)
    (hserved : l.Served node P l.fullPage entries) (hfull : 0 < l.fullPage)
    (hkeys : (entries.map l.key).Nodup) (pages : ℕ) :
    (l.all pages).Ends node P
      (if entries.length / l.fullPage < pages then .done (l.ordered entries) else .stalled) := by
  have hall := ends_after hkeeps hserved hfull hkeys pages none
  rwa [rest_none, (l.ordered_perm entries).length_eq] at hall

/-- Whatever the keys and the size of a page, each page but the last moves the cursor on, so that the
listing comes to an end. -/
theorem exists_ends_after {σ : Type} {node : Node σ} {P : σ → Prop} {limit : ℕ}
    (hkeeps : node.Keeps P) (hserved : l.Served node P limit entries) (pages : ℕ)
    (cursor : Option String) (hpages : (l.rest entries cursor).length < pages) :
    ∃ found, (l.after pages cursor).Ends node P (.done found) := by
  induction pages generalizing cursor with
  | zero => exact absurd hpages (Nat.not_lt_zero _)
  | succ pages ih =>
    cases hlast : l.isLast cursor ((l.rest entries cursor).take limit) with
    | true =>
      refine ⟨(l.rest entries cursor).take limit, (ends_ask hkeeps (hserved cursor)).bind ?_⟩
      rw [if_pos hlast]
      exact ends_done _
    | false =>
      have hne : (l.rest entries cursor).take limit ≠ [] := by
        rintro hnil
        simp [isLast, hnil] at hlast
      have hend := List.getLast?_eq_some_getLast hne
      have hmem := List.mem_of_mem_take (List.getLast_mem hne)
      -- the last entry of the page is behind the next cursor, so one entry less is to come
      have hshorter : (l.rest entries (some (l.key (List.getLast _ hne)))).length < pages := by
        rw [rest_beyond hmem]
        refine lt_of_lt_of_le (List.length_filter_lt_length_iff_exists.2 ⟨_, hmem, ?_⟩)
          (Nat.le_of_lt_succ hpages)
        simp
      obtain ⟨found, hfound⟩ := ih _ hshorter
      refine ⟨(l.rest entries cursor).take limit ++ found,
        (ends_ask hkeeps (hserved cursor)).bind ?_⟩
      rw [if_neg (by simp [hlast]), hend, Option.map_some]
      exact hfound.bind (ends_done _)

theorem exists_ends_all {σ : Type} {node : Node σ} {P : σ → Prop} {limit : ℕ}
    (hkeeps : node.Keeps P) (hserved : l.Served node P limit entries) {pages : ℕ}
    (hpages : entries.length < pages) : ∃ found, (l.all pages).Ends node P (.done found) := by
  refine exists_ends_after hkeeps hserved pages none ?_
  rwa [rest_none, (l.ordered_perm entries).length_eq]

end Countersign.Listing
