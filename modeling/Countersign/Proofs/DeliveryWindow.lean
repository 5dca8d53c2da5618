import Countersign.Proofs.Sessions
import Countersign.Proofs.Subscriptions
import Mathlib

/-! The window in which rounds are delivered to a subscription. It opens with the first batch after the
subscription was made and closes when it is cancelled or the hub is closed, and within it every round
of its contract is delivered, whatever the callbacks do. -/

namespace Countersign.Feed

variable {α β : Type}

/-- Only live subscriptions are called, and for rounds of their own contract; and a live subscription
does not have a turn without being called. -/
def Moment.Fits (before : List (Moment β)) : Moment β → Prop
  | .call id r _ => ∃ contract, Live before id contract ∧ r.contract = some contract
  | .pass id _ => ∀ contract, ¬Live before id contract
  | _ => True

def Fits : List (Moment β) → List (Moment β) → Prop
  | _, [] => True
  | before, m :: ms => m.Fits before ∧ Fits (before ++ [m]) ms

section Fits

variable {before xs ys : List (Moment β)}

theorem fits_append : Fits before (xs ++ ys) ↔ Fits before xs ∧ Fits (before ++ xs) ys := by
  induction xs generalizing before with
  | nil => simp [Fits]
  | cons m xs ih => simp [Fits, ih, and_assoc]

theorem Fits.moment {m : Moment β} (h : Fits before (xs ++ m :: ys)) : m.Fits (before ++ xs) :=
  (fits_append.1 h).2.1

theorem fits_acts (acts : List (Act β)) : Fits before (acts.map .act) := by
  induction acts generalizing before with
  | nil => trivial
  | cons a acts ih => exact ⟨trivial, ih⟩

theorem fits_logged {step : Hub β → α → Hub β} {log : Hub β → α → List (Moment β)}
    (hlog : ∀ h a, (log h a).foldl Hub.follow h = step h a) {as : List α}
    (hfits : ∀ later, ∀ a ∈ as, Fits (before ++ later) (log (Hub.replay (before ++ later)) a)) :
    Fits before (Hub.logged step log (Hub.replay before) as) := by
  induction as generalizing before with
  | nil => trivial
  | cons a as ih =>
    have hfirst : Fits before (log (Hub.replay before) a) := by
      simpa using hfits [] a List.mem_cons_self
    refine fits_append.2 ⟨hfirst, ?_⟩
    rw [← hlog, ← Hub.replay_append]
    refine ih fun later b hb => ?_
    rw [List.append_assoc]
    exact hfits _ b (List.mem_cons_of_mem _ hb)

end Fits

/-! ### Every history fits -/

section History

variable {react : Behaviour β} {before : List (Moment β)}

theorem fits_turn {r : SourcedRound} {id : ℕ} {contract : String} (hmade : Made before id contract)
    (hr : r.contract = some contract) :
    Fits before ((Hub.replay before).turn react r id) := by
  have hreflects := reflects before
  rw [Hub.turn]
  cases hfind : (Hub.replay before).find? id with
  | none =>
    refine ⟨fun contract h => ?_, trivial⟩
    obtain ⟨s, hs, -⟩ := hreflects.live_iff.1 h
    cases hfind.symm.trans hs
  | some s =>
    dsimp only
    split
    · next hactive =>
      have hs : Live before id s.contract := hreflects.live_iff.2 ⟨s, hfind, rfl, hactive⟩
      exact ⟨⟨contract, hmade.unique hs.1 ▸ hs, hr⟩, fits_acts _⟩
    · next hactive =>
      refine ⟨fun contract h => hactive ?_, trivial⟩
      obtain ⟨s', hs', -, hactive'⟩ := hreflects.live_iff.1 h
      exact Option.some.inj (hfind.symm.trans hs') ▸ hactive'

theorem mem_audience {h : Hub β} (hr : Reflects h before) {r : SourcedRound} {id : ℕ} :
    id ∈ Hub.audience h.targets r ↔
      ∃ contract, Live before id contract ∧ r.contract = some contract := by
  simp only [Hub.audience, hr.targets_eq, List.mem_map, List.mem_filter, decide_eq_true_eq]
  constructor
  · rintro ⟨s, ⟨⟨hs, hactive⟩, hcontract⟩, rfl⟩
    exact ⟨s.contract, hr.live_iff.2 ⟨s, hr.find?_eq_some.2 ⟨hs, rfl⟩, rfl, hactive⟩, hcontract⟩
  · rintro ⟨contract, hlive, hcontract⟩
    obtain ⟨s, hfind, rfl, hactive⟩ := hr.live_iff.1 hlive
    obtain ⟨hs, rfl⟩ := hr.find?_eq_some.1 hfind
    exact ⟨s, ⟨⟨hs, hactive⟩, hcontract⟩, rfl⟩

theorem fits_moments (doing : Doing β) :
    Fits before ((Hub.replay before).moments react doing) := by
  cases doing with
  | act a => exact ⟨trivial, trivial⟩
  | batch results =>
    refine ⟨trivial, ?_⟩
    -- the beginning of the batch changes nothing, so the targets are those live before it
    have hbegun : Hub.replay (before ++ [.batch (roundsOf results)]) = Hub.replay before := by
      rw [Hub.replay_append]
      rfl
    rw [← hbegun]
    refine fits_logged (Hub.foldl_roundTurns react _) fun later r _ => ?_
    refine fits_logged (Hub.foldl_turn react r) fun later' id hid => ?_
    rw [hbegun] at hid
    obtain ⟨contract, ⟨hmade, -⟩, hcontract⟩ := (mem_audience (reflects before)).1 hid
    exact fits_turn (((hmade.append _).append later).append later') hcontract

theorem fits_history (react : Behaviour β) (doings : List (Doing β)) :
    Fits [] (Hub.history react doings) :=
  fits_logged (Hub.foldl_moments react) fun _ doing _ => fits_moments doing

/-! ### The turns of one subscription -/

theorem turn?_turn (react : Behaviour β) (r : SourcedRound) (id : ℕ) (h : Hub β) (i : ℕ) :
    (h.turn react r i).filterMap (Moment.turn? id) = if i = id then [r] else [] := by
  have hacts : ∀ acts : List (Act β),
      (acts.map Moment.act).filterMap (Moment.turn? id) = [] := fun acts => by
    rw [List.filterMap_map, List.filterMap_eq_nil_iff]
    exact fun _ _ => rfl
  rw [Hub.turn]
  split
  · by_cases hi : i = id <;> simp [Moment.turn?, hi]
  · split
    · by_cases hi : i = id <;> simp [Moment.turn?, hi, hacts]
    · by_cases hi : i = id <;> simp [Moment.turn?, hi]

theorem turn?_roundTurns {targets : List (Subscription β)}
    (hnodup : (targets.map Subscription.id).Nodup) (id : ℕ) (h : Hub β) (r : SourcedRound) :
    (h.roundTurns react targets r).filterMap (Moment.turn? id) =
      [r].filter fun r => id ∈ Hub.audience targets r := by
  have honce : (Hub.audience targets r).Nodup := hnodup.sublist (List.filter_sublist.map _)
  have hcount : ∀ ids : List ℕ, ids.flatMap (fun i => if i = id then [r] else []) =
      List.replicate (ids.count id) r := by
    intro ids
    induction ids with
    | nil => rfl
    | cons i ids ih =>
      by_cases hi : i = id <;> simp [hi, ih, List.replicate_succ]
  rw [Hub.roundTurns, Hub.filterMap_logged (turn?_turn react r id), hcount, honce.count]
  by_cases hid : id ∈ Hub.audience targets r <;> simp [hid]

theorem turn?_moments (react : Behaviour β) {h : Hub β} (hr : Reflects h before)
    (results : List TxResult) (id : ℕ) :
    (h.moments react (.batch results)).filterMap (Moment.turn? id) =
      (roundsOf results).filter fun r => id ∈ Hub.audience h.targets r := by
  have hnodup : (h.targets.map Subscription.id).Nodup :=
    hr.targets_eq ▸ hr.nodup_ids.sublist (List.filter_sublist.map _)
  rw [Hub.moments, List.filterMap_cons_none rfl, Hub.filterMap_logged (turn?_roundTurns hnodup id)]
  rw [← List.filter_flatMap, List.flatMap_singleton']

end History

/-! ### The window -/

structure Window (react : Behaviour β) (doings : List (Doing β)) : Prop where
  replayed : Hub.replay (Hub.history react doings) = Hub.session react doings
  silent : ∀ before ending after id, Hub.history react doings = before ++ .act ending :: after →
    (ending = .close ∨ ending = .cancel id ∧ ∃ contract, Made before id contract) →
    ∀ r failed, .call id r failed ∉ after
  granted : ∀ before id r failed after,
    Hub.history react doings = before ++ .call id r failed :: after →
    ∃ contract, Live before id contract ∧ r.contract = some contract
  withheld : ∀ before id r after, Hub.history react doings = before ++ .pass id r :: after →
    ∀ contract, ¬Live before id contract
  /-- In a batch, a subscription that is live when it begins has one turn for each round of its
  contract, in order; and one that is not, has none. -/
  turns : ∀ results, ∃ during, Hub.history react (doings ++ [.batch results]) =
      Hub.history react doings ++ .batch (roundsOf results) :: during ∧
    ∀ id, (∀ contract, Live (Hub.history react doings) id contract →
        during.filterMap (Moment.turn? id) =
          (roundsOf results).filter fun r => r.contract = some contract) ∧
      ((∀ contract, ¬Live (Hub.history react doings) id contract) →
        during.filterMap (Moment.turn? id) = [])

theorem window (react : Behaviour β) (doings : List (Doing β)) : Window react doings where
  replayed := Hub.replay_history react doings
  silent before ending after id hsplit hending r failed hmem := by
    have hended : Ended (before ++ [.act ending]) id := by
      rcases hending with rfl | ⟨rfl, hmade⟩
      · exact .inl (by simp)
      · exact ended_concat.2 (.inr (.inr ⟨rfl, hmade⟩))
    obtain ⟨earlier, later, rfl⟩ := List.append_of_mem hmem
    -- a call must be to a live subscription, and what has ended stays ended
    have hfits : Fits [] ((before ++ .act ending :: earlier) ++ .call id r failed :: later) := by
      simpa [hsplit] using fits_history react doings
    obtain ⟨contract, ⟨-, hlive⟩, -⟩ := hfits.moment
    exact hlive (by simpa using hended.append earlier)
  granted before id r failed after hsplit := (hsplit ▸ fits_history react doings).moment
  withheld before id r after hsplit := (hsplit ▸ fits_history react doings).moment
  turns results := by
    have hreflects := reflects (Hub.history react doings)
    rw [Hub.replay_history] at hreflects
    refine ⟨_, Hub.history_concat react doings (.batch results), fun id => ?_⟩
    have hturns := turn?_moments react hreflects results id
    rw [Hub.moments, List.filterMap_cons_none rfl] at hturns
    refine ⟨fun contract hlive => ?_, fun hnone => ?_⟩
    · rw [hturns]
      refine List.filter_congr fun r _ => ?_
      rw [decide_eq_decide, mem_audience hreflects]
      constructor
      · rintro ⟨contract', hlive', hcontract⟩
        rwa [hlive.1.unique hlive'.1]
      · exact fun hcontract => ⟨contract, hlive, hcontract⟩
    · rw [hturns, List.filter_eq_nil_iff]
      intro r _
      rw [decide_eq_true_eq, mem_audience hreflects]
      rintro ⟨contract, hlive, -⟩
      exact hnone contract hlive

/-- The window of every subscription is exact, whatever is done to the hub and however callbacks act
and fail; and a consumer, whatever it goes through, does nothing else to its hub. -/
theorem delivery_window (react : Behaviour β) :
    (∀ doings, Window react doings) ∧ ∀ (settings : Settings) (inputs : List (Input β)),
      ∃ parts : List (List (Doing β)),
        List.Forall₂ (fun input part => part.filterMap Doing.act? = input.act?.toList)
          inputs parts ∧
        (({ settings } : Consumer β).run react inputs).hub = Hub.session react parts.flatten :=
  ⟨window react, fun settings inputs => Consumer.hub_run react { settings } inputs⟩

example :
    let react : Behaviour Bool := fun cancels _ _ _ =>
      if cancels then { acts := [.cancel 2] } else {}
    let transmission : Event := ⟨newTransmission, [⟨"contract_address", "terra1feed"⟩,
      ⟨"answer", "5"⟩, ⟨"round", "1"⟩, ⟨"epoch", "2"⟩]⟩
    (Hub.session react [.act (.subscribe "terra1feed" true), .act (.subscribe "terra1feed" false),
      .batch [{ events := [transmission] }]]).calls.map Call.id = [1] := by
  decide +kernel

end Countersign.Feed
