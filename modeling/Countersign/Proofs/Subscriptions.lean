import Countersign.Proofs.History
import Mathlib

/-! The subscriptions of a hub are those that its history has made, in that order; the active ones,
which are the live ones, are listed, and so they are the targets of the next batch. -/

namespace Countersign.Feed

variable {β : Type} {h : Hub β} {before : List (Moment β)}

structure Reflects (h : Hub β) (before : List (Moment β)) : Prop where
  ids : h.subscriptions.map Subscription.id = List.range' 1 h.subscriptions.length
  contracts : h.subscriptions.map Subscription.contract = before.filterMap Moment.subscribed?
  active : ∀ s ∈ h.subscriptions, s.active = true ↔ ¬Ended before s.id
  listed : h.listed = (h.subscriptions.filter (·.active)).map Subscription.id
  closed : h.closed = true ↔ .act .close ∈ before

namespace Reflects

/-! ### What follows from it -/

theorem nodup_ids (hr : Reflects h before) : (h.subscriptions.map Subscription.id).Nodup :=
  hr.ids ▸ List.nodup_range'

theorem made_of_mem (hr : Reflects h before) {s : Subscription β} (hs : s ∈ h.subscriptions) :
    Made before s.id s.contract := by
  obtain ⟨i, hi, rfl⟩ := List.mem_iff_getElem.1 hs
  have hid : (h.subscriptions.map Subscription.id)[i]? = some (1 + i) := by
    rw [hr.ids, List.getElem?_range' hi, Nat.one_mul]
  rw [List.getElem?_map, List.getElem?_eq_getElem hi, Option.map_some] at hid
  refine ⟨by rw [Option.some.inj hid]; exact Nat.le_add_right 1 i, ?_⟩
  rw [Option.some.inj hid, Nat.add_sub_cancel_left, ← hr.contracts, List.getElem?_map,
    List.getElem?_eq_getElem hi, Option.map_some]

theorem exists_of_made (hr : Reflects h before) {id : ℕ} {contract : String}
    (hmade : Made before id contract) :
    ∃ s ∈ h.subscriptions, s.id = id ∧ s.contract = contract := by
  obtain ⟨hid, hcontract⟩ := hmade
  rw [← hr.contracts, List.getElem?_map] at hcontract
  obtain ⟨s, hs, rfl⟩ := Option.map_eq_some_iff.1 hcontract
  obtain ⟨hi, rfl⟩ := List.getElem?_eq_some_iff.1 hs
  refine ⟨_, List.getElem_mem hi, ?_, rfl⟩
  have hget : (h.subscriptions.map Subscription.id)[id - 1]? = some (1 + (id - 1)) := by
    rw [hr.ids, List.getElem?_range' hi, Nat.one_mul]
  rw [List.getElem?_map, hs, Option.map_some, Nat.add_sub_cancel' hid] at hget
  exact Option.some.inj hget

theorem find?_eq_some (hr : Reflects h before) {id : ℕ} {s : Subscription β} :
    h.find? id = some s ↔ s ∈ h.subscriptions ∧ s.id = id := by
  constructor
  · intro hs
    exact ⟨List.mem_of_find?_eq_some hs, by simpa using List.find?_some hs⟩
  · rintro ⟨hs, rfl⟩
    obtain ⟨s', hs'⟩ : ∃ s', h.find? s.id = some s' :=
      Option.isSome_iff_exists.1 (List.find?_isSome.2 ⟨s, hs, by simp⟩)
    have hid : s'.id = s.id := by simpa using List.find?_some hs'
    rw [hs', List.inj_on_of_nodup_map hr.nodup_ids (List.mem_of_find?_eq_some hs') hs hid]

theorem live_iff (hr : Reflects h before) {id : ℕ} {contract : String} :
    Live before id contract ↔
      ∃ s, h.find? id = some s ∧ s.contract = contract ∧ s.active = true := by
  constructor
  · rintro ⟨hmade, hended⟩
    obtain ⟨s, hs, rfl, rfl⟩ := hr.exists_of_made hmade
    exact ⟨s, hr.find?_eq_some.2 ⟨hs, rfl⟩, rfl, (hr.active s hs).2 hended⟩
  · rintro ⟨s, hfind, rfl, hactive⟩
    obtain ⟨hs, rfl⟩ := hr.find?_eq_some.1 hfind
    exact ⟨hr.made_of_mem hs, (hr.active s hs).1 hactive⟩

theorem targets_eq (hr : Reflects h before) : h.targets = h.subscriptions.filter (·.active) := by
  rw [Hub.targets, hr.listed, List.filterMap_map]
  have hfound : ∀ s ∈ h.subscriptions.filter (·.active), (h.find? ∘ Subscription.id) s = some s :=
    fun s hs => hr.find?_eq_some.2 ⟨(List.mem_filter.1 hs).1, rfl⟩
  rw [List.filterMap_congr hfound, List.filterMap_some]

/-! ### Each moment keeps it -/

theorem not_made_next (hr : Reflects h before) (contract : String) :
    ¬Made before (h.subscriptions.length + 1) contract := by
  intro hmade
  obtain ⟨s, hs, hid, -⟩ := hr.exists_of_made hmade
  have hmem : s.id ∈ List.range' 1 h.subscriptions.length := hr.ids ▸ List.mem_map_of_mem hs
  rw [hid, List.mem_range'_1] at hmem
  omega

theorem update (hr : Reflects h before) {h' : Hub β} {m : Moment β}
    (change : Subscription β → Subscription β) (hid : ∀ s, (change s).id = s.id)
    (hcontract : ∀ s, (change s).contract = s.contract)
    (hsubscriptions : h'.subscriptions = h.subscriptions.map change) (hmade : m.subscribed? = none)
    (hactive : ∀ s ∈ h.subscriptions, (change s).active = true ↔ ¬Ended (before ++ [m]) s.id)
    (hlisted : h'.listed =
      (h.subscriptions.filter fun s => (change s).active).map Subscription.id)
    (hclosed : h'.closed = true ↔ .act .close ∈ before ++ [m]) : Reflects h' (before ++ [m]) where
  ids := by
    rw [hsubscriptions, List.map_map, List.length_map, ← hr.ids]
    exact List.map_congr_left fun s _ => hid s
  contracts := by
    rw [hsubscriptions, List.map_map, List.filterMap_append, ← hr.contracts,
      List.filterMap_cons_none hmade, List.filterMap_nil, List.append_nil]
    exact List.map_congr_left fun s _ => hcontract s
  active := by
    rw [hsubscriptions]
    intro _ hmem
    obtain ⟨s, hs, rfl⟩ := List.mem_map.1 hmem
    rw [hid]
    exact hactive s hs
  listed := by
    rw [hlisted, hsubscriptions, List.filter_map, List.map_map]
    exact List.map_congr_left fun s _ => (hid s).symm
  closed := hclosed

theorem unmoved (hr : Reflects h before) {m : Moment β} (hm : ∀ a, m ≠ .act a) :
    Reflects h (before ++ [m]) := by
  have hmade : m.subscribed? = none := by
    cases m with
    | act a => exact absurd rfl (hm a)
    | _ => rfl
  refine hr.update id (fun _ => rfl) (fun _ => rfl) (List.map_id _).symm hmade ?_ hr.listed ?_
  · intro s hs
    simp [ended_concat, hr.active s hs, hm]
  · simp [hr.closed, (hm _).symm]

theorem cancel (hr : Reflects h before) (id : ℕ) :
    Reflects (h.cancel id) (before ++ [.act (.cancel id)]) := by
  refine hr.update (fun s => if s.id = id then { s with active := false } else s) ?_ ?_ rfl rfl
    ?_ ?_ ?_
  · intro s; split <;> rfl
  · intro s; split <;> rfl
  · intro s hs
    have hended : Ended (before ++ [.act (.cancel id)]) s.id ↔ Ended before s.id ∨ s.id = id := by
      rw [ended_concat]
      constructor
      · rintro (h | h | ⟨h, -⟩)
        · exact .inl h
        · cases h
        · cases h; exact .inr rfl
      · rintro (h | rfl)
        · exact .inl h
        · exact .inr (.inr ⟨rfl, s.contract, hr.made_of_mem hs⟩)
    rw [hended]
    by_cases hid : s.id = id
    · simp [hid]
    · simp [hid, hr.active s hs]
  · change h.listed.filter (· != id) = _
    rw [hr.listed, List.filter_map, List.filter_filter]
    refine congrArg _ (List.filter_congr fun s _ => ?_)
    by_cases hid : s.id = id <;> simp [hid]
  · change h.closed = true ↔ _
    simp [hr.closed]

theorem close (hr : Reflects h before) : Reflects h.close (before ++ [.act .close]) := by
  -- what is active is listed, so nothing that is active is left over
  have hinactive : ∀ s ∈ h.subscriptions,
      (if s.id ∈ h.listed then { s with active := false } else s).active = false := by
    intro s hs
    split
    · rfl
    · next hunlisted =>
      by_contra hactive
      refine hunlisted ?_
      rw [hr.listed]
      exact List.mem_map_of_mem (List.mem_filter.2 ⟨hs, by simpa using hactive⟩)
  refine hr.update (fun s => if s.id ∈ h.listed then { s with active := false } else s) ?_ ?_ rfl rfl
    ?_ ?_ ?_
  · intro s; split <;> rfl
  · intro s; split <;> rfl
  · intro s hs
    have hended : Ended (before ++ [.act .close]) s.id := .inl (by simp)
    simp [hinactive s hs, hended]
  · change [] = _
    rw [List.filter_eq_nil_iff.2 fun s hs => by simp [hinactive s hs], List.map_nil]
  · change true = true ↔ _
    simp

theorem subscribe (hr : Reflects h before) (contract : String) (callback : β) :
    Reflects (h.subscribe contract callback) (before ++ [.act (.subscribe contract callback)]) := by
  have hended : ∀ id, Ended (before ++ [.act (.subscribe contract callback)]) id ↔
      Ended before id := fun id => by simp [ended_concat]
  have hlast : Ended before (h.subscriptions.length + 1) ↔ .act .close ∈ before := by
    refine ⟨?_, .inl⟩
    -- the id is new, so a cancellation of it came too early to count
    rintro (hclose | ⟨earlier, later, contract, rfl, hmade⟩)
    · exact hclose
    · exact absurd (hmade.append _) (hr.not_made_next contract)
  constructor
  case ids =>
    simp only [Hub.subscribe, List.map_append, hr.ids, List.length_append, List.map_cons,
      List.map_nil, List.length_cons, List.length_nil, Nat.zero_add]
    rw [List.range'_1_concat, Nat.add_comm 1]
  case contracts =>
    simp [Hub.subscribe, hr.contracts, Moment.subscribed?]
  case active =>
    intro s hs
    rw [hended]
    rcases List.mem_append.1 hs with hs | hs
    · exact hr.active s hs
    · rw [List.mem_singleton.1 hs, hlast, ← hr.closed]
      simp
  case listed =>
    simp only [Hub.subscribe, hr.listed, List.filter_append, List.map_append]
    cases h.closed <;> simp
  case closed =>
    change h.closed = true ↔ _
    simp [hr.closed]

theorem follow (hr : Reflects h before) (m : Moment β) : Reflects (h.follow m) (before ++ [m]) := by
  cases m with
  | act a =>
    cases a with
    | cancel id => exact hr.cancel id
    | subscribe contract callback => exact hr.subscribe contract callback
    | close => exact hr.close
  | batch rounds => exact hr.unmoved nofun
  | pass i r => exact hr.unmoved nofun
  | call i r failed =>
    refine hr.update (fun s => if s.id = i then { s with calls := s.calls + 1 } else s) ?_ ?_ rfl rfl
      ?_ ?_ ?_
    · intro s; split <;> rfl
    · intro s; split <;> rfl
    · intro s hs
      simp only [ended_concat, reduceCtorEq, false_and, or_false, ← hr.active s hs]
      split <;> rfl
    · change h.listed = _
      rw [hr.listed]
      refine congrArg _ (List.filter_congr fun s _ => ?_)
      split <;> rfl
    · change h.closed = true ↔ _
      simp [hr.closed]

end Reflects

/-- A hub is what its history makes of it. -/
theorem reflects (before : List (Moment β)) : Reflects (Hub.replay before) before := by
  induction before using List.reverseRecOn with
  | nil => exact ⟨rfl, rfl, by simp [Hub.replay], rfl, by simp [Hub.replay]⟩
  | append_singleton before m ih =>
    rw [Hub.replay_append]
    exact ih.follow m

end Countersign.Feed
