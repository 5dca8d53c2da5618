import Countersign.Multisig.Instruction
import Countersign.Proofs.Grouping
import Mathlib

/-! Ids of relayed calls. The addresses and the ids of a result are two lists, collected over all of its
contract events and joined again by position, so they fit when every address is followed by its id. An
address without an id takes a place of its own, and those behind it are joined with the ids of the next. -/

namespace Countersign.Relay

def positions (contract : String) (addresses : List String) : Set ℕ :=
  {i | addresses[i]? = some contract}

/-- The position that counts, where there are several. -/
def Policy.Picks : Policy → Set ℕ → ℕ → Prop
  | .first => IsLeast
  | .last => IsGreatest

/-- The addresses and ids in the contract events of a result, in the order in which they were
emitted. -/
def emitted (events : List Event) : List Attribute :=
  ((Event.ofKind wasm events).flatMap Event.attributes).filter fun a =>
    a.key = contractAddress ∨ a.key = proposalId

def alternating (pairs : List (String × String)) : List Attribute :=
  pairs.flatMap fun p => [⟨contractAddress, p.1⟩, ⟨proposalId, p.2⟩]

variable {c a : String} {addresses ids : List String} {i : ℕ} {policy : Policy}

/-! ### Positions -/

theorem zero_mem_positions : 0 ∈ positions c (a :: addresses) ↔ a = c := by
  simp [positions]

theorem succ_mem_positions : i + 1 ∈ positions c (a :: addresses) ↔ i ∈ positions c addresses := by
  simp [positions]

theorem Policy.Picks.mem {S : Set ℕ} (h : policy.Picks S i) : i ∈ S := by
  cases policy with
  | first => exact h.1
  | last => exact h.1

theorem exists_position : (∃ i, i ∈ positions c addresses) ↔ c ∈ addresses := by
  simp only [positions, Set.mem_ofPred_eq, List.mem_iff_getElem?]

theorem lt_of_mem_positions (h : i ∈ positions c addresses) : i < addresses.length :=
  (List.getElem?_eq_some_iff.1 h).1

theorem exists_picked (policy : Policy) (h : c ∈ addresses) :
    ∃ i, policy.Picks (positions c addresses) i := by
  obtain ⟨i, hi⟩ := exists_position.2 h
  cases policy with
  | first => exact ⟨_, isLeast_csInf ⟨i, hi⟩⟩
  | last =>
    have hbounded : BddAbove (positions c addresses) :=
      ⟨addresses.length, fun _ hj => (lt_of_mem_positions hj).le⟩
    exact ⟨_, Nat.sSup_mem ⟨i, hi⟩ hbounded, fun _ hj => le_csSup hbounded hj⟩

theorem picks_cons (ha : a ≠ c) :
    policy.Picks (positions c (a :: addresses)) (i + 1) ↔ policy.Picks (positions c addresses) i := by
  have hsucc : ∀ j ∈ positions c (a :: addresses), ∃ k ∈ positions c addresses, j = k + 1 := by
    intro j hj
    cases j with
    | zero => exact absurd (zero_mem_positions.1 hj) ha
    | succ k => exact ⟨k, succ_mem_positions.1 hj, rfl⟩
  cases policy
  all_goals
    refine and_congr succ_mem_positions ⟨fun h j hj => ?_, fun h j hj => ?_⟩
    · exact Nat.succ_le_succ_iff.1 (h (succ_mem_positions.2 hj))
    · obtain ⟨k, hk, rfl⟩ := hsucc j hj
      exact Nat.succ_le_succ (h hk)

/-! ### Matching by position -/

theorem matching_eq_nil (h : c ∉ addresses) : matching c addresses ids = [] := by
  induction addresses generalizing ids with
  | nil => rfl
  | cons a addresses ih =>
    rw [List.mem_cons, not_or] at h
    rw [matching, if_neg (Ne.symm h.1), ih h.2]

theorem head?_matching (h : IsLeast (positions c addresses) i) :
    (matching c addresses ids).head? = some ids[i]? := by
  induction addresses generalizing ids i with
  | nil => exact absurd (lt_of_mem_positions h.1) (Nat.not_lt_zero i)
  | cons a addresses ih =>
    rw [matching]
    by_cases ha : a = c
    · obtain rfl : i = 0 := Nat.le_zero.1 (h.2 (zero_mem_positions.2 ha))
      rw [if_pos ha, List.head?_cons, List.head?_eq_getElem?]
    · cases i with
      | zero => exact absurd (zero_mem_positions.1 h.1) ha
      | succ i =>
        have htail : Policy.first.Picks (positions c addresses) i := (picks_cons ha).1 h
        rw [if_neg ha, ih htail, List.getElem?_tail]

theorem getLast?_matching (h : IsGreatest (positions c addresses) i) :
    (matching c addresses ids).getLast? = some ids[i]? := by
  induction addresses generalizing ids i with
  | nil => exact absurd (lt_of_mem_positions h.1) (Nat.not_lt_zero i)
  | cons a addresses ih =>
    rw [matching]
    cases i with
    | zero =>
      -- a position in the tail would be greater
      have hnone : c ∉ addresses := fun hc => by
        obtain ⟨j, hj⟩ := exists_position.2 hc
        exact Nat.not_succ_le_zero j (h.2 (succ_mem_positions.2 hj))
      rw [if_pos (zero_mem_positions.1 h.1), matching_eq_nil hnone, List.getLast?_singleton,
        List.head?_eq_getElem?]
    | succ i =>
      have htail : IsGreatest (positions c addresses) i :=
        ⟨succ_mem_positions.1 h.1, fun j hj => Nat.succ_le_succ_iff.1 (h.2 (succ_mem_positions.2 hj))⟩
      have hlast : (matching c addresses ids.tail).getLast? = some ids[i + 1]? := by
        rw [ih htail, List.getElem?_tail]
      split
      · rw [List.getLast?_cons, hlast, Option.getD_some]
      · exact hlast

variable {g : EventGroup} {groups : List EventGroup}

theorem relayed?_picked (h : policy.Picks (positions c (g.values wasm contractAddress)) i) :
    relayed? policy (g :: groups) c = (g.values wasm proposalId)[i]? := by
  cases policy with
  | first =>
    change (matching c _ _).head?.join = _
    rw [head?_matching h, Option.join_some]
  | last =>
    change (matching c _ _).getLast?.join = _
    rw [getLast?_matching h, Option.join_some]

theorem relayed?_absent (h : c ∉ g.values wasm contractAddress) :
    relayed? policy (g :: groups) c = none := by
  have hnone : matching c (g.values wasm contractAddress) (g.values wasm proposalId) = [] :=
    matching_eq_nil h
  cases policy with
  | first =>
    change (matching c _ _).head?.join = none
    rw [hnone, List.head?_nil, Option.join_none]
  | last =>
    change (matching c _ _).getLast?.join = none
    rw [hnone, List.getLast?_nil, Option.join_none]

theorem relayed?_eq_some {id : String} : relayed? policy (g :: groups) c = some id ↔
    ∃ i, policy.Picks (positions c (g.values wasm contractAddress)) i ∧
      (g.values wasm proposalId)[i]? = some id := by
  by_cases hc : c ∈ g.values wasm contractAddress
  · obtain ⟨i, hi⟩ := exists_picked policy hc
    constructor
    · intro h
      exact ⟨i, hi, relayed?_picked hi ▸ h⟩
    · rintro ⟨j, hj, hid⟩
      rwa [relayed?_picked hj]
  · refine iff_of_false (by simp [relayed?_absent hc]) ?_
    rintro ⟨i, hi, -⟩
    exact hc (exists_position.1 ⟨i, hi.mem⟩)

theorem direct?_eq_none (h : ∀ g ∈ groups, g.first? wasm contractAddress ≠ some c) :
    direct? groups c = none := by
  induction groups with
  | nil => rfl
  | cons g groups ih =>
    rw [List.forall_mem_cons] at h
    rw [direct?, List.foldl_cons, if_neg h.1]
    exact ih h.2

theorem proposalId?_of_no_head (h : ∀ g ∈ groups, g.first? wasm contractAddress ≠ some c) :
    proposalId? groups c = relayed? .last groups c := by
  rw [proposalId?, direct?_eq_none h, Option.none_or]

/-! ### What a result emits -/

variable {events : List Event} {pairs : List (String × String)}

theorem values_emitted {key : String} (hkey : key = contractAddress ∨ key = proposalId) :
    (EventGroup.ofEvents events).values wasm key = Attribute.valuesOf key (emitted events) := by
  rw [EventGroup.values_ofEvents, ← Attribute.valuesOf_flatMap, Attribute.valuesOf,
    Attribute.valuesOf, emitted, List.filter_filter]
  congr 1
  refine List.filter_congr fun a _ => ?_
  rw [eq_comm, Bool.and_eq_left_iff_imp]
  intro ha
  rw [decide_eq_true_eq] at ha ⊢
  rwa [ha]

theorem addresses_alternating : Attribute.valuesOf contractAddress (alternating pairs) =
    pairs.map Prod.fst := by
  induction pairs with
  | nil => rfl
  | cons p pairs ih => rw [List.map_cons, ← ih]; rfl

theorem ids_alternating : Attribute.valuesOf proposalId (alternating pairs) =
    pairs.map Prod.snd := by
  induction pairs with
  | nil => rfl
  | cons p pairs ih => rw [List.map_cons, ← ih]; rfl

theorem position_pairs :
    i ∈ positions c (pairs.map Prod.fst) ↔ ∃ p, pairs[i]? = some p ∧ p.1 = c := by
  simp only [positions, Set.mem_ofPred_eq, List.getElem?_map, Option.map_eq_some_iff]

theorem id_at {id : String} (h : i ∈ positions c (pairs.map Prod.fst)) :
    (pairs.map Prod.snd)[i]? = some id ↔ pairs[i]? = some (c, id) := by
  obtain ⟨p, hp, rfl⟩ := position_pairs.1 h
  simp [List.getElem?_map, hp, Prod.ext_iff]

/-- The ids of relayed calls are found by position, however the pairs are spread over the events. -/
theorem relayed_ids (r : TxResult) (results : List TxResult) (pairs : List (String × String))
    (h : emitted r.events = alternating pairs) (c : String) :
    let groups := (Receipt.ofResults (r :: results)).groups
    (∀ policy id, relayed? policy groups c = some id ↔
        ∃ i, policy.Picks (positions c (pairs.map Prod.fst)) i ∧ pairs[i]? = some (c, id)) ∧
      (∀ policy, relayed? policy groups c = none ↔ ∀ p ∈ pairs, p.1 ≠ c) ∧
      ((∀ g ∈ groups, g.first? wasm contractAddress ≠ some c) →
        proposalId? groups c = relayed? .last groups c) := by
  intro groups
  have haddresses : r.group.values wasm contractAddress = pairs.map Prod.fst := by
    rw [TxResult.group, values_emitted (.inl rfl), h, addresses_alternating]
  have hids : r.group.values wasm proposalId = pairs.map Prod.snd := by
    rw [TxResult.group, values_emitted (.inr rfl), h, ids_alternating]
  have hsome : ∀ policy id, relayed? policy groups c = some id ↔
      ∃ i, policy.Picks (positions c (pairs.map Prod.fst)) i ∧ pairs[i]? = some (c, id) := by
    intro policy id
    refine relayed?_eq_some.trans (exists_congr fun i => ?_)
    rw [haddresses, hids]
    exact and_congr_right fun hi => id_at hi.mem
  refine ⟨hsome, fun policy => ⟨fun hnone p hp hpc => ?_, fun hnone => ?_⟩, proposalId?_of_no_head⟩
  · obtain ⟨i, hi⟩ := exists_picked policy (List.mem_map.2 ⟨p, hp, hpc⟩)
    obtain ⟨q, hq, hqc⟩ : ∃ q, pairs[i]? = some q ∧ q.1 = c := position_pairs.1 hi.mem
    have hfound := (hsome policy q.2).2 ⟨i, hi, by rw [hq, ← hqc]⟩
    rw [hnone] at hfound
    cases hfound
  · rw [Option.eq_none_iff_forall_ne_some]
    intro id hfound
    obtain ⟨i, -, hi⟩ := (hsome policy id).1 hfound
    exact hnone _ (List.mem_of_getElem? hi) rfl

def scatteredCalls : TxResult where
  events := [
    ⟨wasm, [⟨contractAddress, "terra1feed"⟩, ⟨"action", "begin_proposal"⟩, ⟨proposalId, "1"⟩,
      ⟨contractAddress, "terra1other"⟩]⟩,
    ⟨"transfer", [⟨proposalId, "9"⟩]⟩,
    ⟨wasm, [⟨proposalId, "2"⟩, ⟨contractAddress, "terra1feed"⟩, ⟨proposalId, "3"⟩]⟩]

theorem relayed_ids_scattered :
    let groups := (Receipt.ofResults [scatteredCalls]).groups
    emitted scatteredCalls.events =
        alternating [("terra1feed", "1"), ("terra1other", "2"), ("terra1feed", "3")] ∧
      relayed? .first groups "terra1feed" = some "1" ∧
      relayed? .last groups "terra1feed" = some "3" ∧
      relayed? .first groups "terra1absent" = none ∧
      proposalId? groups "terra1other" = some "2" := by
  intro groups
  have hemitted : emitted scatteredCalls.events =
      alternating [("terra1feed", "1"), ("terra1other", "2"), ("terra1feed", "3")] := by decide
  have hfeed := relayed_ids scatteredCalls [] _ hemitted "terra1feed"
  have hother := relayed_ids scatteredCalls [] _ hemitted "terra1other"
  refine ⟨hemitted, (hfeed.1 _ _).2 ⟨0, ⟨rfl, fun j _ => Nat.zero_le j⟩, rfl⟩,
    (hfeed.1 _ _).2 ⟨2, ⟨rfl, fun j hj => Nat.le_of_lt_succ (lt_of_mem_positions hj)⟩, rfl⟩,
    ((relayed_ids scatteredCalls [] _ hemitted "terra1absent").2.1 .first).2 (by decide), ?_⟩
  have honly : ∀ j ∈ positions "terra1other" ["terra1feed", "terra1other", "terra1feed"], j = 1 := by
    intro j hj
    match j, hj with
    | 0, hj => exact absurd hj (by simp [positions])
    | 1, _ => rfl
    | 2, hj => exact absurd hj (by simp [positions])
  rw [hother.2.2 (by decide)]
  exact (hother.1 .last "2").2 ⟨1, ⟨rfl, fun j hj => (honly j hj).le⟩, rfl⟩

/-! ### Behind an address without an id -/

section own

variable {r : TxResult} {m : String}

theorem addresses_behind_own (h : emitted r.events = ⟨contractAddress, m⟩ :: alternating pairs) :
    r.group.values wasm contractAddress = m :: pairs.map Prod.fst := by
  rw [TxResult.group, values_emitted (.inl rfl), h, ← addresses_alternating]
  rfl

theorem ids_behind_own (h : emitted r.events = ⟨contractAddress, m⟩ :: alternating pairs) :
    r.group.values wasm proposalId = pairs.map Prod.snd := by
  rw [TxResult.group, values_emitted (.inr rfl), h, ← ids_alternating]
  rfl

theorem relayed?_behind_own (h : emitted r.events = ⟨contractAddress, m⟩ :: alternating pairs)
    (hc : c ≠ m) (results : List TxResult)
    (hi : policy.Picks (positions c (pairs.map Prod.fst)) i) :
    relayed? policy (Receipt.ofResults (r :: results)).groups c = pairs[i + 1]?.map Prod.snd := by
  have hmoved : policy.Picks (positions c (r.group.values wasm contractAddress)) (i + 1) := by
    rw [addresses_behind_own h]
    exact (picks_cons hc.symm).2 hi
  have hfound : relayed? policy (Receipt.ofResults (r :: results)).groups c =
      (r.group.values wasm proposalId)[i + 1]? :=
    relayed?_picked hmoved
  rw [hfound, ids_behind_own h, List.getElem?_map]

theorem relayed?_not_behind_own
    (h : emitted r.events = ⟨contractAddress, m⟩ :: alternating pairs) (hc : c ≠ m)
    (results : List TxResult) (hnone : c ∉ pairs.map Prod.fst) :
    relayed? policy (Receipt.ofResults (r :: results)).groups c = none := by
  have habsent : c ∉ r.group.values wasm contractAddress := by
    rw [addresses_behind_own h]
    exact List.not_mem_cons_of_ne_of_not_mem hc hnone
  exact relayed?_absent habsent

theorem openedProposal_behind_own
    (h : emitted r.events = ⟨contractAddress, m⟩ :: alternating pairs) (hc : c ≠ m) :
    Instruction.openedProposal c (Receipt.ofResults [r]).groups =
      (relayed? .last (Receipt.ofResults [r]).groups c).map fun id => [("proposalId", .text id)] := by
  have hhead : ∀ g ∈ (Receipt.ofResults [r]).groups, g.first? wasm contractAddress ≠ some c := by
    refine List.forall_mem_singleton.2 fun hfirst => ?_
    rw [EventGroup.first?, addresses_behind_own h, List.head?_cons] at hfirst
    exact hc (Option.some.inj hfirst).symm
  rw [Instruction.openedProposal, proposalId?_of_no_head hhead]

end own

/-- Addresses and ids are joined by their places in the two lists, the multisig's own address taking the
first: of the pairs behind it, the picked one is given the id of the next, if there is one. It is its own
exactly where the next pair has the same. -/
theorem relayed_by_place (r : TxResult) (m : String) (pairs : List (String × String))
    (h : emitted r.events = ⟨contractAddress, m⟩ :: alternating pairs) {c : String} (hc : c ≠ m) :
    (∀ policy results i, policy.Picks (positions c (pairs.map Prod.fst)) i →
      relayed? policy (Receipt.ofResults (r :: results)).groups c = pairs[i + 1]?.map Prod.snd ∧
        ∀ id, pairs[i]? = some (c, id) →
          (relayed? policy (Receipt.ofResults (r :: results)).groups c = some id ↔
            ∃ a, pairs[i + 1]? = some (a, id))) ∧
      (∀ policy results, c ∉ pairs.map Prod.fst →
        relayed? policy (Receipt.ofResults (r :: results)).groups c = none) ∧
      Instruction.openedProposal c (Receipt.ofResults [r]).groups =
        (relayed? .last (Receipt.ofResults [r]).groups c).map fun id => [("proposalId", .text id)] := by
  refine ⟨fun policy results i hi => ?_, fun policy results => relayed?_not_behind_own h hc results,
    openedProposal_behind_own h hc⟩
  have hnext := relayed?_behind_own h hc results hi
  refine ⟨hnext, fun id _ => ?_⟩
  rw [hnext]
  simp [Option.map_eq_some_iff]

def relayedCalls (idA idB : String) : TxResult where
  events := [⟨wasm, [⟨contractAddress, "terra1multisig"⟩, ⟨"action", "execute"⟩,
    ⟨contractAddress, "terra1feed_a"⟩, ⟨proposalId, idA⟩,
    ⟨contractAddress, "terra1feed_b"⟩, ⟨proposalId, idB⟩]⟩]

theorem relayed_by_place_two :
    let groups := (Receipt.ofResults [relayedCalls "101" "202"]).groups
    emitted (relayedCalls "101" "202").events = ⟨contractAddress, "terra1multisig"⟩ ::
        alternating [("terra1feed_a", "101"), ("terra1feed_b", "202")] ∧
      relayed? .first groups "terra1feed_a" = some "202" ∧
      relayed? .first groups "terra1other" = none ∧
      Instruction.openedProposal "terra1feed_a" groups = some [("proposalId", .text "202")] := by
  intro groups
  have hemitted : emitted (relayedCalls "101" "202").events = ⟨contractAddress, "terra1multisig"⟩ ::
      alternating [("terra1feed_a", "101"), ("terra1feed_b", "202")] := by decide
  have hself : 0 ∈ positions "terra1feed_a" ["terra1feed_a", "terra1feed_b"] := rfl
  have honly : ∀ j ∈ positions "terra1feed_a" ["terra1feed_a", "terra1feed_b"], j = 0 := by
    intro j hj
    match j, hj with
    | 0, _ => rfl
    | 1, hj => exact absurd hj (by simp [positions])
  obtain ⟨hfeed, -, hhook⟩ :=
    relayed_by_place _ _ _ hemitted (c := "terra1feed_a") (by decide)
  obtain ⟨-, hother, -⟩ := relayed_by_place _ _ _ hemitted (c := "terra1other") (by decide)
  have hlast := (hfeed .last [] 0 ⟨hself, fun j hj => (honly j hj).le⟩).1
  refine ⟨hemitted, (hfeed .first [] 0 ⟨hself, fun j _ => Nat.zero_le j⟩).1,
    hother .first [] (by decide), ?_⟩
  rw [hhook, hlast]
  rfl

/-- Neither call is given the id that it comes with. -/
theorem relayed_neighbour :
    let groups := (Receipt.ofResults [relayedCalls "101" "202"]).groups
    emitted (relayedCalls "101" "202").events = ⟨contractAddress, "terra1multisig"⟩ ::
        alternating [("terra1feed_a", "101"), ("terra1feed_b", "202")] ∧
      relayed? .first groups "terra1feed_a" = some "202" ∧
      relayed? .last groups "terra1feed_a" = some "202" ∧
      Instruction.openedProposal "terra1feed_a" groups = some [("proposalId", .text "202")] ∧
      relayed? .first groups "terra1feed_b" = none ∧
      Instruction.openedProposal "terra1feed_b" groups = none :=
  ⟨by decide, by decide, by decide, rfl, by decide, rfl⟩

end Countersign.Relay
