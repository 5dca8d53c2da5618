import Countersign.Json.Basic
import Mathlib

/-! Entries put one by one end in ascending key order, and keep what they were if no key repeats. -/

namespace Countersign

namespace Entries

variable {α : Type} {entries : List (String × α)}

theorem put_last {key : String} {value : α} (h : ∀ e ∈ entries, e.1 < key) :
    put key value entries = entries ++ [(key, value)] := by
  induction entries with
  | nil => rfl
  | cons e rest ih =>
    obtain ⟨k, v⟩ := e
    have hk : k < key := h (k, v) (by simp)
    rw [put, if_neg (lt_asymm hk), if_neg hk.ne', ih fun e he => h e (by simp [he]),
      List.cons_append]

theorem ofList_eq_self (h : entries.Pairwise (·.1 < ·.1)) : ofList entries = entries := by
  have hfold : ∀ sorted : List (String × α), (sorted ++ entries).Pairwise (·.1 < ·.1) →
      entries.foldl (fun sorted e => put e.1 e.2 sorted) sorted = sorted ++ entries := by
    clear h
    induction entries with
    | nil => simp
    | cons e rest ih =>
      intro sorted hsorted
      have hlast : put e.1 e.2 sorted = sorted ++ [e] :=
        put_last fun d hd => (List.pairwise_append.1 hsorted).2.2 d hd e (by simp)
      rw [List.foldl_cons, hlast, ih _ (by simpa using hsorted), List.append_assoc,
        List.singleton_append]
  exact hfold [] h

theorem ofList_concat (entries : List (String × α)) (e : String × α) :
    ofList (entries ++ [e]) = put e.1 e.2 (ofList entries) := by
  rw [ofList, List.foldl_append, List.foldl_cons, List.foldl_nil, ofList]

theorem lookup_put_of_ne {key other : String} (h : other ≠ key) (value : α)
    (entries : List (String × α)) : (put key value entries).lookup other = entries.lookup other := by
  have hne : (other == key) = false := by simpa using h
  induction entries with
  | nil => simp [put, List.lookup_cons, hne]
  | cons e rest ih =>
    obtain ⟨k, v⟩ := e
    rw [put]
    split_ifs with hlt heq
    · rw [List.lookup_cons, hne]
    · rw [List.lookup_cons, List.lookup_cons, ← heq, hne]
    · rw [List.lookup_cons, List.lookup_cons, ih]

theorem lookup_ofList (entries : List (String × α)) (key : String) :
    (ofList entries).lookup key = entries.reverse.lookup key := by
  induction entries using List.reverseRecOn with
  | nil => rfl
  | append_singleton rest e ih =>
    obtain ⟨k, v⟩ := e
    rw [ofList_concat, List.reverse_append, List.reverse_singleton, List.singleton_append]
    by_cases hk : key = k
    · subst hk
      rw [lookup_put_self, List.lookup_cons_self]
    · have hne : (key == k) = false := by simpa using hk
      rw [lookup_put_of_ne hk, ih, List.lookup_cons, hne]

theorem lookup_ofList_of_single {key : String} (h : (entries.map Prod.fst).count key ≤ 1) :
    (ofList entries).lookup key = entries.lookup key := by
  rw [lookup_ofList]
  induction entries with
  | nil => rfl
  | cons e rest ih =>
    obtain ⟨k, v⟩ := e
    rw [List.map_cons, List.count_cons] at h
    rw [List.reverse_cons, List.lookup_append, ih (by omega), List.lookup_cons]
    by_cases hk : key = k
    · subst hk
      have hnew : rest.lookup key = none := by
        rw [List.lookup_eq_none_iff]
        intro e he
        have habsent : key ∉ rest.map Prod.fst := List.count_eq_zero.1 (by simpa using h)
        exact bne_iff_ne.2 fun heq => habsent (heq ▸ List.mem_map_of_mem he)
      rw [hnew]
      simp
    · have hne : (key == k) = false := by simpa using hk
      rw [List.lookup_cons, hne]
      simp

theorem mem_put {key : String} {value : α} {e : String × α} (h : e ∈ put key value entries) :
    e = (key, value) ∨ e ∈ entries := by
  induction entries with
  | nil => simpa [put] using h
  | cons d rest ih =>
    obtain ⟨k, v⟩ := d
    rw [put] at h
    split at h
    · simpa using h
    · split at h
      · rcases List.mem_cons.1 h with h | h
        · exact .inl h
        · exact .inr (List.mem_cons_of_mem _ h)
      · rcases List.mem_cons.1 h with h | h
        · exact .inr (by simp [h])
        · exact (ih h).imp_right (List.mem_cons_of_mem _)

theorem mem_ofList {e : String × α} (h : e ∈ ofList entries) : e ∈ entries := by
  induction entries using List.reverseRecOn with
  | nil => exact h
  | append_singleton rest d ih =>
    rw [ofList_concat] at h
    rcases mem_put h with rfl | h
    · simp
    · exact List.mem_append_left _ (ih h)

theorem ascending_put {key : String} {value : α} (h : entries.Pairwise (·.1 < ·.1)) :
    (put key value entries).Pairwise (·.1 < ·.1) := by
  induction entries with
  | nil => simp [put]
  | cons d rest ih =>
    obtain ⟨k, v⟩ := d
    obtain ⟨hk, hrest⟩ := List.pairwise_cons.1 h
    rw [put]
    split
    · next hlt =>
      refine List.pairwise_cons.2 ⟨fun e he => ?_, h⟩
      rcases List.mem_cons.1 he with rfl | he
      · exact hlt
      · exact hlt.trans (hk e he)
    · next hge =>
      split
      · next heq =>
        subst heq
        exact List.pairwise_cons.2 ⟨hk, hrest⟩
      · next hne =>
        refine List.pairwise_cons.2 ⟨fun e he => ?_, ih hrest⟩
        rcases mem_put he with rfl | he
        · exact lt_of_le_of_ne (not_lt.1 hge) (Ne.symm hne)
        · exact hk e he

theorem ascending_ofList (entries : List (String × α)) : (ofList entries).Pairwise (·.1 < ·.1) := by
  induction entries using List.reverseRecOn with
  | nil => exact .nil
  | append_singleton rest e ih =>
    rw [ofList_concat]
    exact ascending_put ih

theorem nodup_keys_ofList (entries : List (String × α)) :
    ((ofList entries).map Prod.fst).Nodup :=
  (List.pairwise_map.2 (ascending_ofList entries)).imp fun h => h.ne

theorem put_perm {key : String} {value : α} (h : ∀ e ∈ entries, e.1 ≠ key) :
    (put key value entries).Perm ((key, value) :: entries) := by
  induction entries with
  | nil => exact .refl _
  | cons d rest ih =>
    obtain ⟨k, v⟩ := d
    have hk : k ≠ key := h (k, v) (by simp)
    rw [put]
    split
    · exact .refl _
    · rw [if_neg hk.symm]
      exact ((ih fun e he => h e (by simp [he])).cons _).trans (.swap _ _ _)

theorem ofList_perm (h : (entries.map Prod.fst).Nodup) : (ofList entries).Perm entries := by
  induction entries using List.reverseRecOn with
  | nil => exact .refl _
  | append_singleton rest d ih =>
    rw [List.map_append, List.nodup_append] at h
    obtain ⟨hrest, -, hdisjoint⟩ := h
    rw [ofList_concat]
    have hnew : ∀ e ∈ ofList rest, e.1 ≠ d.1 := fun e he =>
      hdisjoint e.1 (List.mem_map_of_mem (mem_ofList he)) d.1 (by simp)
    exact (put_perm hnew).trans (((ih hrest).cons d).trans (List.perm_append_singleton d rest).symm)

theorem eq_of_ascending {as bs : List (String × α)} (hperm : as.Perm bs)
    (has : as.Pairwise (·.1 < ·.1)) (hbs : bs.Pairwise (·.1 < ·.1)) : as = bs :=
  hperm.eq_of_pairwise (fun _ _ _ _ hab hba => absurd hba (lt_asymm hab)) has hbs

theorem ofList_eq_iff_perm {as bs : List (String × α)} (has : (as.map Prod.fst).Nodup)
    (hbs : (bs.map Prod.fst).Nodup) : ofList as = ofList bs ↔ as.Perm bs := by
  constructor
  · intro h
    exact (ofList_perm has).symm.trans (h ▸ ofList_perm hbs)
  · intro h
    exact eq_of_ascending (((ofList_perm has).trans h).trans (ofList_perm hbs).symm)
      (ascending_ofList as) (ascending_ofList bs)

end Entries

end Countersign
