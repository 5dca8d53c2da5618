import Countersign.Feed.Consumer
import Mathlib

/-! A callback that fails does nothing by failing. Were other calls to fail, or none, a consumer would
make the same calls in the same order and be left with the same subscriptions. -/

namespace Countersign.Feed

variable {β : Type}

def Behaviour.failing (fails : β → (id call : ℕ) → Round → Bool) (react : Behaviour β) :
    Behaviour β :=
  fun callback id call round =>
    { react callback id call round with fails := fails callback id call round }

def Behaviour.calm (react : Behaviour β) : Behaviour β :=
  react.failing fun _ _ _ _ => false

def Call.blameless (call : Call) : Call :=
  { call with failed := false }

/-- The hub, had no call failed. -/
def Hub.blameless (h : Hub β) : Hub β :=
  { h with calls := h.calls.map Call.blameless }

def Metrics.blameless (m : Metrics) : Metrics :=
  { m with roundsDelivered := m.roundsDelivered + m.callbackFailures, callbackFailures := 0 }

def Consumer.blameless (c : Consumer β) : Consumer β :=
  { c with hub := c.hub.blameless, metrics := c.metrics.blameless }

/-! ### The hub -/

namespace Hub

theorem blameless_perform (h : Hub β) (a : Act β) :
    (h.perform a).blameless = h.blameless.perform a := by
  cases a <;> rfl

theorem blameless_call (react : Behaviour β) (round : Round) (h : Hub β) (id : ℕ) :
    (h.call react round id).blameless = h.blameless.call react.calm round id := by
  have hfind : h.blameless.find? id = h.find? id := rfl
  rw [call, call, hfind]
  cases h.find? id with
  | none => rfl
  | some s =>
    dsimp only
    split
    · rw [← List.foldl_hom blameless fun h a => (blameless_perform h a).symm]
      simp [blameless, modify, Behaviour.calm, Behaviour.failing, Call.blameless]
    · rfl

theorem blameless_deliverRound (react : Behaviour β) (targets : List (Subscription β)) (h : Hub β)
    (r : SourcedRound) :
    (h.deliverRound react targets r).blameless = h.blameless.deliverRound react.calm targets r :=
  (List.foldl_hom blameless fun h id => (blameless_call react r.round h id).symm).symm

theorem blameless_deliver (react : Behaviour β) (rounds : List SourcedRound) (h : Hub β) :
    (h.deliver react rounds).blameless = h.blameless.deliver react.calm rounds :=
  (List.foldl_hom blameless fun h' r => (blameless_deliverRound react h.targets h' r).symm).symm

end Hub

/-! ### The consumer -/

theorem countP_blameless (calls : List Call) :
    (calls.map Call.blameless).countP (!·.failed) =
        calls.countP (!·.failed) + calls.countP (·.failed) ∧
      (calls.map Call.blameless).countP (·.failed) = 0 := by
  have hdivided := calls.length_eq_countP_add_countP fun call => !call.failed
  simpa [Call.blameless, Function.comp_def] using hdivided

namespace Consumer

theorem blameless_deliver (react : Behaviour β) (batch : List TxResult) (c : Consumer β) :
    (c.deliver react batch).blameless = c.blameless.deliver react.calm batch := by
  have hhub : c.blameless.hub = c.hub.blameless := rfl
  rw [deliver, deliver, hhub, ← Hub.blameless_deliver]
  -- the calls of this batch, which are the new ones, are divided in another way
  have hcalls := countP_blameless
    ((c.hub.deliver react (extractSourcedRounds (batch.map TxResult.group)).found).calls.drop
      c.hub.calls.length)
  simp only [Hub.blameless, List.length_map, ← List.map_drop, hcalls,
    blameless, Metrics.blameless]
  congr 2
  exact Nat.add_add_add_comm _ _ _ _

theorem blameless_halt (c : Consumer β) : c.halt.blameless = c.blameless.halt := by
  have hclosed : c.blameless.hub.closed = c.hub.closed := rfl
  rw [halt, halt, hclosed]
  split <;> rfl

theorem blameless_receive (react : Behaviour β) (c : Consumer β) (item : Item) :
    (c.receive react item).blameless = c.blameless.receive react.calm item := by
  have hphase : c.blameless.phase = c.phase := rfl
  rw [receive.eq_def, receive.eq_def, hphase]
  cases c.phase with
  | live fruitful =>
    cases item with
    | ok batch => exact blameless_deliver react batch c
    | error e => exact blameless_halt (c.lose fruitful)
  | _ => rfl

theorem blameless_finish (c : Consumer β) : c.finish.blameless = c.blameless.finish := by
  have hphase : c.blameless.phase = c.phase := rfl
  rw [finish, finish, hphase]
  cases c.phase with
  | live fruitful => exact blameless_halt (c.lose fruitful)
  | _ => rfl

theorem blameless_connect (react : Behaviour β) (c : Consumer β) (opening : Opening) :
    (c.connect react opening).blameless = c.blameless.connect react.calm opening := by
  cases opening with
  | refused => rfl
  | stream items stays =>
    have hitems : ∀ c : Consumer β, (items.foldl (receive react) c).blameless =
        items.foldl (receive react.calm) c.blameless := fun c =>
      (List.foldl_hom blameless fun c item => (blameless_receive react c item).symm).symm
    cases stays with
    | true => exact (blameless_halt _).trans (congrArg halt (hitems _))
    | false => exact (blameless_finish _).trans (congrArg finish (hitems _))

theorem blameless_reconnect (react : Behaviour β) (limit : ℕ) (plan : List Opening)
    (c : Consumer β) : (reconnect react limit plan c).blameless =
      reconnect react.calm limit plan c.blameless := by
  have hdue : ∀ c : Consumer β, c.blameless.due? limit = c.due? limit := fun _ => rfl
  induction plan generalizing c with
  | nil =>
    rw [reconnect.eq_def, reconnect.eq_def]
    dsimp only
    rw [hdue]
    cases c.due? limit with
    | none => rfl
    | some due =>
      exact congrArg (fun c : Consumer β => { c with plan := [] })
        (blameless_connect react { c with now := due } (.stream [] true))
  | cons opening rest ih =>
    rw [reconnect.eq_def, reconnect.eq_def]
    dsimp only
    rw [hdue]
    cases c.due? limit with
    | none => rfl
    | some due => exact (ih _).trans (congrArg _ (blameless_connect react _ opening))

theorem blameless_settle (react : Behaviour β) (c : Consumer β) :
    (c.settle react).blameless = c.blameless.settle react.calm :=
  blameless_reconnect react c.now c.plan c

theorem blameless_step (react : Behaviour β) (c : Consumer β) (input : Input β) :
    (c.step react input).blameless = c.blameless.step react.calm input := by
  cases input with
  | subscribe contract callback => rfl
  | cancel id => rfl
  | destroy => rfl
  | expect openings => rfl
  | start =>
    have hphase : c.blameless.phase = c.phase := rfl
    rw [step, step, start, start, hphase]
    cases c.phase with
    | idle => exact blameless_settle react _
    | _ => rfl
  | push item =>
    cases item with
    | ok batch =>
      have htaken := (blameless_halt _).trans
        (congrArg halt (blameless_receive react c (.ok batch)))
      exact (blameless_settle react _).trans (congrArg _ htaken)
    | error e =>
      have hended := (blameless_finish _).trans
        (congrArg finish (blameless_receive react c (.error e)))
      exact (blameless_settle react _).trans (congrArg _ hended)
  | endStream => rw [step, step, endStream, endStream, blameless_settle, blameless_finish]
  | pass time =>
    exact congrArg (fun c' : Consumer β => { c' with now := c.now + time })
      (blameless_reconnect react (c.now + time) c.plan c)

theorem blameless_run (react : Behaviour β) (c : Consumer β) (inputs : List (Input β)) :
    (c.run react inputs).blameless = c.blameless.run react.calm inputs :=
  (List.foldl_hom blameless fun c input => (blameless_step react c input).symm).symm

/-- Which calls fail makes no difference but to the count of failures. -/
theorem run_failing (react : Behaviour β) (fails : β → (id call : ℕ) → Round → Bool)
    (c : Consumer β) (inputs : List (Input β)) :
    (c.run (react.failing fails) inputs).blameless = (c.run react inputs).blameless := by
  rw [blameless_run, blameless_run]
  rfl

end Consumer
end Countersign.Feed
