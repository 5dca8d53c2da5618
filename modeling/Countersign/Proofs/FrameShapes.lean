import Countersign.Proofs.Frames
import Countersign.Proofs.Transmissions
import Countersign.Proofs.TypedLogs
import Mathlib

/-! Frames that give the results of a transaction as a log, and frames that leave the log empty and give
all events in one list. The groups differ, and what is extracted from them does not. -/

namespace Countersign

structure ExtractedAlike (groups groups' : List EventGroup) : Prop where
  rounds : extractRounds groups = extractRounds groups'
  sourced : extractSourcedRounds groups = extractSourcedRounds groups'
  transmissions : extractTransmissions groups = extractTransmissions groups'
  count : transmissionCount groups = transmissionCount groups'

theorem extractedAlike_of_events {results results' : List TxResult}
    (h : results.flatMap TxResult.events = results'.flatMap TxResult.events) :
    ExtractedAlike (Receipt.ofResults results).groups (Receipt.ofResults results').groups := by
  have hsame : transmissionEvents (Receipt.ofResults results).groups =
      transmissionEvents (Receipt.ofResults results').groups := by
    rw [transmissionEvents_results, transmissionEvents_results, h]
  constructor
  · rw [extractRounds, Extraction.of, Extraction.of, hsame]
  · rw [extractSourcedRounds, Extraction.of, Extraction.of, hsame]
  · rw [extractTransmissions, Extraction.of, Extraction.of, hsame]
  · rw [transmissionCount, transmissionCount, hsame]

namespace Feed

def Frame.groups (query : String) (f : Frame) : List EventGroup :=
  (Receipt.ofResults ((f.batch? query).getD [])).groups

def Tells (content : String) (result : Json) : Prop :=
  ∃ v, Json.parse? content = some v ∧ v.get? "error" = none ∧ transaction? v = some result

/-- A text that reads as the results, with no field given twice. -/
def LogOf (results : List TxResult) (log : String) : Prop :=
  ∃ v, Json.parse? log = some v ∧ Record.list? TxResult.read? v = some results ∧
    repeatsIn log = false

def CarriesLog (results : List TxResult) (content : String) : Prop :=
  ∃ result log, Tells content result ∧ result.get? "log" = some (.text log) ∧ LogOf results log

def CarriesEvents (events : List Event) (content : String) : Prop :=
  ∃ result, Tells content result ∧ ((result.get? "log").bind Json.text?).getD "" = "" ∧
    (result.get? "events").bind (Record.list? Event.read?) = some events

variable {query content : String}

theorem Tells.batch {result : Json} (h : Tells content result) :
    (Frame.text content).batch? query = batchOf? result := by
  obtain ⟨v, hv, herror, hresult⟩ := h
  rw [Frame.batch?, itemOf?, hv]
  simp only [Option.bind_eq_bind, Option.bind_some, herror]
  change ((transaction? v).bind _).bind _ = _
  rw [hresult, Option.bind_some]
  cases batchOf? result <;> rfl

theorem LogOf.resultsOfText? {results : List TxResult} {log : String} (h : LogOf results log) :
    Feed.resultsOfText? log = some results := by
  obtain ⟨v, hv, hread, honce⟩ := h
  rw [resultsOfText?_eq hv, honce, hread]
  rfl

theorem CarriesLog.batch {results : List TxResult} (h : CarriesLog results content) :
    (Frame.text content).batch? query = some results := by
  obtain ⟨result, log, htells, hlog, hresults⟩ := h
  rw [htells.batch, batchOf?, hlog, Option.bind_some, Json.text?, Option.getD_some]
  split
  · obtain ⟨v, hempty, -⟩ := hresults
    have hnone : Json.parse? "" = none := by rfl
    cases hnone.symm.trans hempty
  · exact hresults.resultsOfText?

theorem CarriesEvents.batch {events : List Event} (h : CarriesEvents events content) :
    (Frame.text content).batch? query = if events = [] then none else some [{ events }] := by
  obtain ⟨result, htells, hlog, hevents⟩ := h
  rw [htells.batch, batchOf?, hlog, hevents]
  cases events <;> rfl

theorem logOf_write (results : List TxResult) :
    LogOf results (Json.list (results.map TxResult.toJson)).write := by
  have hreadable := TxResult.readable_list results
  exact ⟨_, Json.parse?_write hreadable, Record.list?_map results TxResult.read?_toJson,
    repeatsIn_write hreadable⟩

/-- Both frames lead to the same rounds and transmissions, the first by one group for each result, the
second by a single group, or by none where there is no event. -/
theorem frame_shapes_alike (query : String) (results : List TxResult) :
    LogOf results (Json.list (results.map TxResult.toJson)).write ∧
    ∀ first second, CarriesLog results first →
      CarriesEvents (results.flatMap TxResult.events) second →
      let apart := (Frame.text first).groups query
      let merged := (Frame.text second).groups query
      let events := results.flatMap TxResult.events
      apart = results.map TxResult.group ∧
        merged = (if events = [] then [] else [EventGroup.ofEvents events]) ∧
        ExtractedAlike apart merged := by
  refine ⟨logOf_write results, ?_⟩
  intro first second hfirst hsecond apart merged events
  have hapart : apart = (Receipt.ofResults results).groups := by
    simp only [apart, Frame.groups, hfirst.batch, Option.getD_some]
  rw [hapart]
  by_cases hnone : events = []
  -- without any event the second frame brings nothing, and all groups of the first are empty
  · have hbatch : (Frame.text second).batch? query = none := hsecond.batch.trans (if_pos hnone)
    have hmerged : merged = (Receipt.ofResults []).groups := by
      simp only [merged, Frame.groups, hbatch, Option.getD_none]
    rw [hmerged, if_pos hnone]
    exact ⟨rfl, rfl, extractedAlike_of_events hnone⟩
  · have hbatch : (Frame.text second).batch? query = some [{ events }] :=
      hsecond.batch.trans (if_neg hnone)
    have hmerged : merged = (Receipt.ofResults [{ events }]).groups := by
      simp only [merged, Frame.groups, hbatch, Option.getD_some]
    rw [hmerged, if_neg hnone]
    exact ⟨rfl, rfl, extractedAlike_of_events (List.append_nil events).symm⟩

def message (result : Json) : Json :=
  ["result", "data", "value", "TxResult", "result"].foldr (fun key v => .ofEntries [(key, v)]) result

theorem tells_message {result : Json} (h : result.Readable 122) :
    Tells (message result).write result := by
  have hentry : ∀ {depth : ℕ} (key : String) {v : Json}, v.Readable depth →
      (Json.ofEntries [(key, v)]).Readable (depth + 1) := fun key v hv =>
    .ofEntries (List.forall_mem_singleton.2 hv)
  have hreadable : (message result).Readable Document.greatestDepth :=
    hentry _ (hentry _ (hentry _ (hentry _ (hentry _ h))))
  exact ⟨_, Json.parse?_write hreadable, rfl, rfl⟩

def logFrame (results : List TxResult) : String :=
  (message (.ofEntries [("log", .text (Json.list (results.map TxResult.toJson)).write)])).write

def eventsFrame (events : List Event) : String :=
  (message (.ofEntries [("events", .list (events.map Event.toJson))])).write

theorem carriesLog_logFrame (results : List TxResult) : CarriesLog results (logFrame results) := by
  refine ⟨_, _, tells_message ?_, rfl, logOf_write results⟩
  exact .ofEntries (List.forall_mem_singleton.2 (.text _))

theorem carriesEvents_eventsFrame (events : List Event) :
    CarriesEvents events (eventsFrame events) := by
  refine ⟨_, tells_message ?_, rfl, Record.list?_map events Event.read?_toJson⟩
  refine .ofEntries (List.forall_mem_singleton.2 (.list fun v hv => ?_))
  obtain ⟨e, -, rfl⟩ := List.mem_map.1 hv
  exact e.readable 117

def scattered : List TxResult :=
  let complete : Event := ⟨newTransmission, [⟨"answer", "5"⟩, ⟨"round", "1"⟩, ⟨"epoch", "1"⟩]⟩
  let incomplete : Event := ⟨newTransmission, [⟨"answer", "6"⟩, ⟨"round", "2"⟩]⟩
  [⟨some 0, none, [complete, ⟨"transfer", []⟩, complete]⟩, {}, { events := [incomplete] }]

theorem frame_shapes_scattered :
    let apart := (Frame.text (logFrame scattered)).groups "tm.event='Tx'"
    let merged := (Frame.text (eventsFrame (scattered.flatMap TxResult.events))).groups
      "tm.event='Tx'"
    apart.length = 3 ∧ merged.length = 1 ∧ ExtractedAlike apart merged ∧
      (extractSourcedRounds merged).found.length = 2 ∧ transmissionCount merged = 3 := by
  intro apart merged
  have hevents : scattered.flatMap TxResult.events ≠ [] := by decide
  obtain ⟨hapart, hmerged, halike⟩ := (frame_shapes_alike "tm.event='Tx'" scattered).2 _ _
    (carriesLog_logFrame scattered) (carriesEvents_eventsFrame _)
  rw [if_neg hevents] at hmerged
  refine ⟨congrArg List.length hapart, congrArg List.length hmerged, halike, ?_, ?_⟩
  · exact (congrArg (fun g => (extractSourcedRounds g).found.length) hmerged).trans
      (by decide +kernel)
  · exact (congrArg transmissionCount hmerged).trans (by decide +kernel)

end Feed
end Countersign
