import Countersign.Proofs.Failures
import Countersign.Proofs.Sessions
import Countersign.Proofs.Transmissions
import Mathlib

/-! The counts of a consumer come out even: each transmission of a batch is decoded or skipped, each call
returns or fails, and all of them are counted, whatever the callbacks do. -/

namespace Countersign.Feed

variable {β : Type} {react : Behaviour β}

def Doing.batch? : Doing β → Option (List TxResult)
  | .batch results => some results
  | .act _ => none

def transmissionsOf (results : List TxResult) : List Event :=
  Event.ofKind newTransmission (results.flatMap TxResult.events)

/-! ### Batches -/

theorem roundsOf_eq (results : List TxResult) :
    roundsOf results = (transmissionsOf results).filterMap SourcedRound.ofEvent? :=
  Extraction.found_results SourcedRound.decode_ofList results

theorem transmissionCount_eq (results : List TxResult) :
    transmissionCount (results.map TxResult.group) = (transmissionsOf results).length := by
  have hevents := congrArg List.length (transmissionEvents_results results)
  rwa [List.length_map] at hevents

theorem length_roundsOf (results : List TxResult) :
    (roundsOf results).length =
      (transmissionsOf results).countP fun e => (SourcedRound.ofEvent? e).isSome := by
  rw [roundsOf_eq, List.length_filterMap_eq_countP]

theorem countP_stated (events : List Event) :
    (events.countP fun e => (SourcedRound.ofEvent? e).isSome) +
      (events.countP fun e => (SourcedRound.ofEvent? e).isNone) = events.length := by
  rw [events.length_eq_countP_add_countP fun e => (SourcedRound.ofEvent? e).isSome]
  exact congrArg _ (List.countP_congr fun e _ => by simp)

theorem skipped_eq (results : List TxResult) :
    transmissionCount (results.map TxResult.group) - (roundsOf results).length =
      (transmissionsOf results).countP fun e => (SourcedRound.ofEvent? e).isNone := by
  rw [transmissionCount_eq, length_roundsOf, ← countP_stated, Nat.add_sub_cancel_left]

/-! ### What is counted -/

structure Tally (ds : List (Doing β)) (c : Consumer β) : Prop where
  batches : c.metrics.batches = (ds.filterMap Doing.batch?).length
  decoded : c.metrics.roundsDecoded =
    ((ds.filterMap Doing.batch?).flatMap transmissionsOf).countP
      fun e => (SourcedRound.ofEvent? e).isSome
  skipped : c.metrics.eventsSkipped =
    ((ds.filterMap Doing.batch?).flatMap transmissionsOf).countP
      fun e => (SourcedRound.ofEvent? e).isNone
  returned : c.metrics.roundsDelivered = c.hub.calls.countP (!·.failed)
  failed : c.metrics.callbackFailures = c.hub.calls.countP (·.failed)

section Tally

variable {c c' : Consumer β} {ds ds' : List (Doing β)}

theorem Tally.act (htally : Tally ds c) (a : Act β) (hmetrics : c'.metrics = c.metrics)
    (hcalls : c'.hub.calls = c.hub.calls) : Tally (ds ++ [.act a]) c' := by
  have hbatches : (ds ++ [Doing.act a]).filterMap Doing.batch? = ds.filterMap Doing.batch? := by
    simp [Doing.batch?]
  constructor <;> rw [hmetrics]
  case batches => rw [hbatches, htally.batches]
  case decoded => rw [hbatches, htally.decoded]
  case skipped => rw [hbatches, htally.skipped]
  case returned => rw [hcalls, htally.returned]
  case failed => rw [hcalls, htally.failed]

theorem Tally.deliver (htally : Tally ds c) (react : Behaviour β) (batch : List TxResult) :
    Tally (ds ++ [.batch batch]) (c.deliver react batch) := by
  have hbatches : (ds ++ [Doing.batch batch]).filterMap Doing.batch? =
      ds.filterMap Doing.batch? ++ [batch] := by
    simp [Doing.batch?]
  have hcalls : (c.deliver react batch).hub.calls = c.hub.calls ++
      (c.hub.moments react (.batch batch)).filterMap Moment.call? :=
    c.hub.calls_attend react (.batch batch)
  constructor
  case batches =>
    rw [hbatches, List.length_append, ← htally.batches]
    rfl
  case decoded =>
    rw [hbatches, List.flatMap_append, List.countP_append, ← htally.decoded,
      List.flatMap_singleton, ← length_roundsOf]
    rfl
  case skipped =>
    rw [hbatches, List.flatMap_append, List.countP_append, ← htally.skipped,
      List.flatMap_singleton, ← skipped_eq]
    rfl
  -- the calls of the batch are those that come after all calls made before
  case returned =>
    rw [hcalls, List.countP_append, ← htally.returned]
    change _ + ((c.deliver react batch).hub.calls.drop _).countP _ = _
    rw [hcalls, List.drop_left]
  case failed =>
    rw [hcalls, List.countP_append, ← htally.failed]
    change _ + ((c.deliver react batch).hub.calls.drop _).countP _ = _
    rw [hcalls, List.drop_left]

theorem Consumer.Moves.tally (hmoves : Moves react c ds' c') (htally : Tally ds c) :
    Tally (ds ++ ds') c' := by
  cases hmoves with
  | act => exact htally.act _ rfl (c.hub.calls_perform _)
  | destroy => exact htally.act .close rfl rfl
  | deliver hlive batch => exact htally.deliver react batch
  | lose | halt | start | connect | pass =>
    rw [List.append_nil]
    exact { htally with }

theorem Consumer.Goes.tally (hgoes : Goes react c ds' c') (htally : Tally ds c) :
    Tally (ds ++ ds') c' := by
  induction hgoes with
  | refl => rwa [List.append_nil]
  | step _ hmoves ih =>
    rw [← List.append_assoc]
    exact hmoves.tally ih

end Tally

/-- The counts of a consumer are those of the batches it took and of the callbacks it called. -/
structure Conserved (react : Behaviour β) (ds : List (Doing β)) (c : Consumer β) : Prop where
  replayed : c.hub = Hub.replay (Hub.history react ds)
  calls : c.hub.calls = (Hub.history react ds).filterMap Moment.call?
  tally : Tally ds c
  transmissions : c.metrics.roundsDecoded + c.metrics.eventsSkipped =
    ((ds.filterMap Doing.batch?).flatMap transmissionsOf).length
  unsaturated : ∀ batch ∈ ds.filterMap Doing.batch?,
    (roundsOf batch).length ≤ transmissionCount (batch.map TxResult.group)
  invocations : c.metrics.roundsDelivered + c.metrics.callbackFailures =
    ((Hub.history react ds).filterMap Moment.call?).length

theorem conserved (react : Behaviour β) (settings : Settings) (inputs : List (Input β)) :
    Conserved react (Consumer.doings react { settings } inputs)
      (({ settings } : Consumer β).run react inputs) := by
  have hreplayed := Consumer.replay_run react settings inputs
  have hnew : Tally [] ({ settings } : Consumer β) := ⟨rfl, rfl, rfl, rfl, rfl⟩
  have htally := (Consumer.goes_run react { settings } inputs).tally hnew
  rw [List.nil_append] at htally
  have hcalls := (congrArg Hub.calls hreplayed).trans (Hub.calls_replay _)
  refine ⟨hreplayed, hcalls, htally, ?transmissions, ?unsaturated, ?invocations⟩
  case transmissions =>
    rw [htally.decoded, htally.skipped, countP_stated]
  case unsaturated =>
    intro batch _
    rw [transmissionCount_eq, length_roundsOf]
    exact List.countP_le_length
  case invocations =>
    rw [← hcalls, htally.returned, htally.failed,
      List.length_eq_countP_add_countP fun call : Call => !call.failed]
    simp

theorem isActive_follow_call (h : Hub β) (id : ℕ) (r : SourcedRound) (failed : Bool) (i : ℕ) :
    (h.follow (.call id r failed)).isActive i = h.isActive i := by
  have hkept : ∀ s : Subscription β,
      (if s.id = id then { s with calls := s.calls + 1 } else s).id = s.id ∧
        (if s.id = id then { s with calls := s.calls + 1 } else s).active = s.active := fun s => by
    split <;> exact ⟨rfl, rfl⟩
  simp only [Hub.isActive, Hub.find?, Hub.follow, Hub.modify, List.find?_map, Function.comp_def,
    hkept, Option.any_map]

/-- In every run the counts come out even. Failing, a callback changes no more than them: no
subscription ends by it, and whichever calls fail, the same calls are made. -/
theorem metrics_conserved (react : Behaviour β) (settings : Settings) (inputs : List (Input β)) :
    let c := ({ settings } : Consumer β).run react inputs
    Conserved react (Consumer.doings react { settings } inputs) c ∧
      (∀ (h : Hub β) id r i, (h.follow (.call id r true)).isActive i = h.isActive i) ∧
      ∀ fails : β → (id call : ℕ) → Round → Bool,
        (({ settings } : Consumer β).run (react.failing fails) inputs).blameless = c.blameless :=
  ⟨conserved react settings inputs, fun h id r i => isActive_follow_call h id r true i,
    fun fails => Consumer.run_failing react fails _ inputs⟩

example :
    let react : Behaviour Bool := fun fails _ _ _ => { fails }
    let transmission : Event := ⟨newTransmission, [⟨"contract_address", "terra1feed"⟩,
      ⟨"answer", "5"⟩, ⟨"round", "1"⟩, ⟨"epoch", "2"⟩]⟩
    (({ settings := {} } : Consumer Bool).run react [.subscribe "terra1feed" true,
      .subscribe "terra1feed" false, .start, .push (.ok [{ events := [transmission] }])]).metrics =
      { batches := 1, roundsDecoded := 1, roundsDelivered := 1, callbackFailures := 1 } := by
  decide +kernel

end Countersign.Feed
