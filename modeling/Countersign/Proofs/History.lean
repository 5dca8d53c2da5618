import Countersign.Feed.Hub
import Mathlib

/-! What happens to a hub, one thing at a time: acts, from outside or by callbacks, beginnings of
batches, and the turns that subscriptions have for the rounds of a batch. Which subscriptions are live
is read off this history alone. -/

namespace Countersign.Feed

variable {α β : Type}

inductive Moment (β : Type) where
  | act (a : Act β)
  | batch (rounds : List SourcedRound)
  /-- A callback is started for a round; what it does then is in the moments that follow. -/
  | call (id : ℕ) (r : SourcedRound) (failed : Bool)
  /-- A subscription has its turn for a round, and its callback is not started. -/
  | pass (id : ℕ) (r : SourcedRound)

inductive Doing (β : Type) where
  | act (a : Act β)
  | batch (results : List TxResult)

namespace Moment

def subscribed? : Moment β → Option String
  | .act (.subscribe contract _) => some contract
  | _ => none

def turn? (id : ℕ) : Moment β → Option SourcedRound
  | .call i r _ => if i = id then some r else none
  | .pass i r => if i = id then some r else none
  | _ => none

def call? : Moment β → Option Call
  | .call id r failed => some ⟨id, r.round, failed⟩
  | _ => none

end Moment

/-! ### Live subscriptions -/

def Made (before : List (Moment β)) (id : ℕ) (contract : String) : Prop :=
  1 ≤ id ∧ (before.filterMap Moment.subscribed?)[id - 1]? = some contract

/-- The hub was closed, or the subscription cancelled when it had been made. -/
def Ended (before : List (Moment β)) (id : ℕ) : Prop :=
  .act .close ∈ before ∨ ∃ earlier later contract,
    before = earlier ++ .act (.cancel id) :: later ∧ Made earlier id contract

def Live (before : List (Moment β)) (id : ℕ) (contract : String) : Prop :=
  Made before id contract ∧ ¬Ended before id

theorem Made.unique {before : List (Moment β)} {id : ℕ} {contract contract' : String}
    (h : Made before id contract) (h' : Made before id contract') : contract = contract' :=
  Option.some.inj (h.2.symm.trans h'.2)

theorem Made.append {before : List (Moment β)} {id : ℕ} {contract : String}
    (h : Made before id contract) (ms : List (Moment β)) : Made (before ++ ms) id contract := by
  refine ⟨h.1, ?_⟩
  rw [List.filterMap_append, List.getElem?_append_left (List.getElem?_eq_some_iff.1 h.2).1]
  exact h.2

theorem Ended.append {before : List (Moment β)} {id : ℕ} (h : Ended before id)
    (ms : List (Moment β)) : Ended (before ++ ms) id := by
  rcases h with hclose | ⟨earlier, later, contract, rfl, hmade⟩
  · exact .inl (List.mem_append_left _ hclose)
  · exact .inr ⟨earlier, later ++ ms, contract, by simp, hmade⟩

theorem ended_concat {before : List (Moment β)} {m : Moment β} {id : ℕ} :
    Ended (before ++ [m]) id ↔ Ended before id ∨ m = .act .close ∨
      m = .act (.cancel id) ∧ ∃ contract, Made before id contract := by
  constructor
  · rintro (hclose | ⟨earlier, later, contract, hsplit, hmade⟩)
    · rcases List.mem_append.1 hclose with h | h
      · exact .inl (.inl h)
      · exact .inr (.inl (List.mem_singleton.1 h).symm)
    · rcases List.eq_nil_or_concat later with rfl | ⟨later, last, rfl⟩
      · obtain ⟨rfl, hm⟩ := List.append_inj' hsplit rfl
        exact .inr (.inr ⟨List.head_eq_of_cons_eq hm, contract, hmade⟩)
      · have hinit : before ++ [m] = (earlier ++ .act (.cancel id) :: later) ++ [last] := by
          simpa using hsplit
        exact .inl (.inr ⟨earlier, later, contract, (List.append_inj' hinit rfl).1, hmade⟩)
  · rintro (h | rfl | ⟨rfl, contract, hmade⟩)
    · exact h.append [m]
    · exact .inl (by simp)
    · exact .inr ⟨before, [], contract, rfl, hmade⟩

/-! ### Histories of hubs -/

def roundsOf (results : List TxResult) : List SourcedRound :=
  (extractSourcedRounds (results.map TxResult.group)).found

namespace Hub

def follow (h : Hub β) : Moment β → Hub β
  | .act a => h.perform a
  | .call id r failed =>
    { h.modify id fun s => { s with calls := s.calls + 1 } with
      calls := h.calls ++ [⟨id, r.round, failed⟩] }
  | .batch _ | .pass .. => h

def replay (before : List (Moment β)) : Hub β :=
  before.foldl follow {}

theorem replay_append (before ms : List (Moment β)) :
    replay (before ++ ms) = ms.foldl follow (replay before) :=
  List.foldl_append

def logged (step : Hub β → α → Hub β) (log : Hub β → α → List (Moment β)) :
    Hub β → List α → List (Moment β)
  | _, [] => []
  | h, a :: as => log h a ++ logged step log (step h a) as

def turn (react : Behaviour β) (r : SourcedRound) (h : Hub β) (id : ℕ) : List (Moment β) :=
  match h.find? id with
  | none => [.pass id r]
  | some s =>
    if s.active then
      let reaction := react s.callback id (s.calls + 1) r.round
      .call id r reaction.fails :: reaction.acts.map .act
    else [.pass id r]

def audience (targets : List (Subscription β)) (r : SourcedRound) : List ℕ :=
  (targets.filter fun s => r.contract = some s.contract).map Subscription.id

def roundTurns (react : Behaviour β) (targets : List (Subscription β)) (h : Hub β)
    (r : SourcedRound) : List (Moment β) :=
  logged (call react r.round) (turn react r) h (audience targets r)

def attend (react : Behaviour β) (h : Hub β) : Doing β → Hub β
  | .act a => h.perform a
  | .batch results => h.deliver react (roundsOf results)

def moments (react : Behaviour β) (h : Hub β) : Doing β → List (Moment β)
  | .act a => [.act a]
  | .batch results =>
    .batch (roundsOf results) ::
      logged (deliverRound react h.targets) (roundTurns react h.targets) h (roundsOf results)

def session (react : Behaviour β) (doings : List (Doing β)) : Hub β :=
  doings.foldl (attend react) {}

def history (react : Behaviour β) (doings : List (Doing β)) : List (Moment β) :=
  logged (attend react) (moments react) {} doings

variable {step : Hub β → α → Hub β} {log : Hub β → α → List (Moment β)}

theorem logged_append (h : Hub β) (as bs : List α) :
    logged step log h (as ++ bs) = logged step log h as ++ logged step log (as.foldl step h) bs := by
  induction as generalizing h with
  | nil => rfl
  | cons a as ih => simp only [List.cons_append, logged, ih, List.append_assoc, List.foldl_cons]

theorem filterMap_logged {γ : Type} {f : Moment β → Option γ} {g : α → List γ}
    (hlog : ∀ h a, (log h a).filterMap f = g a) (h : Hub β) (as : List α) :
    (logged step log h as).filterMap f = as.flatMap g := by
  induction as generalizing h with
  | nil => rfl
  | cons a as ih => rw [logged, List.filterMap_append, hlog, ih, List.flatMap_cons]

/-! ### A history accounts for its hub -/

theorem foldl_logged (hlog : ∀ h a, (log h a).foldl follow h = step h a) (h : Hub β)
    (as : List α) : (logged step log h as).foldl follow h = as.foldl step h := by
  induction as generalizing h with
  | nil => rfl
  | cons a as ih => rw [logged, List.foldl_append, hlog, ih, List.foldl_cons]

theorem foldl_turn (react : Behaviour β) (r : SourcedRound) (h : Hub β) (id : ℕ) :
    (h.turn react r id).foldl follow h = h.call react r.round id := by
  rw [turn, call]
  cases h.find? id with
  | none => rfl
  | some s =>
    dsimp only
    split
    · rw [List.foldl_cons, List.foldl_map]
      rfl
    · rfl

theorem foldl_roundTurns (react : Behaviour β) (targets : List (Subscription β)) (h : Hub β)
    (r : SourcedRound) :
    (h.roundTurns react targets r).foldl follow h = h.deliverRound react targets r :=
  foldl_logged (foldl_turn react r) h (audience targets r)

theorem foldl_moments (react : Behaviour β) (h : Hub β) (doing : Doing β) :
    (h.moments react doing).foldl follow h = h.attend react doing := by
  cases doing with
  | act a => rfl
  | batch results => exact foldl_logged (foldl_roundTurns react h.targets) h (roundsOf results)

theorem replay_history (react : Behaviour β) (doings : List (Doing β)) :
    replay (history react doings) = session react doings :=
  foldl_logged (foldl_moments react) {} doings

theorem history_concat (react : Behaviour β) (doings : List (Doing β)) (doing : Doing β) :
    history react (doings ++ [doing]) =
      history react doings ++ (session react doings).moments react doing := by
  rw [history, logged_append, logged, logged, List.append_nil]
  rfl

/-! ### The calls of a history -/

@[simp] theorem calls_perform (h : Hub β) (a : Act β) : (h.perform a).calls = h.calls := by
  cases a <;> rfl

theorem calls_follow (h : Hub β) (m : Moment β) :
    (h.follow m).calls = h.calls ++ m.call?.toList := by
  cases m with
  | act a => simp [follow, Moment.call?]
  | call id r failed => rfl
  | _ => exact (List.append_nil _).symm

theorem calls_foldl_follow (h : Hub β) (ms : List (Moment β)) :
    (ms.foldl follow h).calls = h.calls ++ ms.filterMap Moment.call? := by
  induction ms generalizing h with
  | nil => simp
  | cons m ms ih =>
    rw [List.foldl_cons, ih, calls_follow]
    cases hm : m.call? <;> simp [hm]

theorem calls_attend (react : Behaviour β) (h : Hub β) (doing : Doing β) :
    (h.attend react doing).calls = h.calls ++ (h.moments react doing).filterMap Moment.call? := by
  rw [← foldl_moments, calls_foldl_follow]

theorem calls_replay (ms : List (Moment β)) :
    (replay ms).calls = ms.filterMap Moment.call? :=
  calls_foldl_follow {} ms

end Hub
end Countersign.Feed
