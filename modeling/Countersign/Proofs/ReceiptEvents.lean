import Countersign.Proofs.AcceptedRun
import Countersign.Proofs.TypedLogs
import Mathlib

/-! The events of a receipt that was read as a record, and those of the same receipt decoded as a value.
Both take the results under `logs`, and the text under `raw_log` where there are none. What only a value
is decoded by is `events` of its own. -/

namespace Countersign

namespace TxReceipt

variable {entries : List (String × Json)} {r : TxReceipt}

theorem read?_object (h : read? (.object entries) = some r) :
    (entries.lookup "logs").elim (some []) (Record.list? TxResult.read?) = some r.logs ∧
      (entries.lookup "raw_log").elim (some "") Record.text? = some r.rawLog := by
  obtain ⟨f, hf, h⟩ := Option.bind_eq_some_iff.1 h
  obtain ⟨found, hfound, rfl⟩ := Option.map_eq_some_iff.1 hf
  obtain ⟨hash, -, h⟩ := Option.bind_eq_some_iff.1 h
  obtain ⟨logs, hlogs, h⟩ := Option.bind_eq_some_iff.1 h
  obtain ⟨rawLog, hraw, h⟩ := Option.bind_eq_some_iff.1 h
  obtain ⟨code, -, h⟩ := Option.bind_eq_some_iff.1 h
  obtain rfl := Option.some.inj h
  rw [Record.Fields.withDefault?_eq] at hlogs hraw
  -- only the hash has another name
  have hsame : ∀ name, name ≠ "txhash" → name ≠ "hash" → ∀ key : String,
      (List.lookup key [("txhash", "hash")]).getD key = name ↔ key = name := by
    intro name htx hhash key
    by_cases hkey : key = "txhash"
    · subst hkey
      exact iff_of_false (Ne.symm hhash) (Ne.symm htx)
    · have hne : (key == "txhash") = false := beq_eq_false_iff_ne.2 hkey
      rw [List.lookup_cons, hne, List.lookup_nil, Option.getD_none]
  rw [← Record.lookup_knownWith? hfound (by simp) (hsame "logs" (by decide) (by decide)),
    ← Record.lookup_knownWith? hfound (by simp) (hsame "raw_log" (by decide) (by decide))]
  exact ⟨hlogs, hraw⟩

theorem logs_cases (h : read? (.object entries) = some r) :
    (r.logs ≠ [] ∧ ∃ item items, entries.lookup "logs" = some (.list (item :: items)) ∧
      (item :: items).mapM TxResult.read? = some r.logs) ∨
    r.logs = [] ∧ ∀ item items, entries.lookup "logs" ≠ some (.list (item :: items)) := by
  have hlogs := (read?_object h).1
  cases hentry : entries.lookup "logs" with
  | none =>
    rw [hentry, Option.elim_none] at hlogs
    exact .inr ⟨(Option.some.inj hlogs).symm, nofun⟩
  | some v =>
    rw [hentry, Option.elim_some] at hlogs
    obtain ⟨items, rfl, hitems⟩ := Record.list?_eq_some.1 hlogs
    cases items with
    | nil => exact .inr ⟨(Option.some.inj hitems).symm, nofun⟩
    | cons item items =>
      refine .inl ⟨fun hempty => ?_, item, items, rfl, hitems⟩
      rw [hempty] at hitems
      cases (mapM_eq_some_iff.1 hitems).length_eq

theorem rawLog_cases (h : read? (.object entries) = some r) :
    entries.lookup "raw_log" = some (.text r.rawLog) ∨
      entries.lookup "raw_log" = none ∧ r.rawLog = "" := by
  have hraw := (read?_object h).2
  cases hentry : entries.lookup "raw_log" with
  | none =>
    rw [hentry, Option.elim_none] at hraw
    exact .inr ⟨rfl, (Option.some.inj hraw).symm⟩
  | some v =>
    rw [hentry, Option.elim_some] at hraw
    exact .inl (congrArg some (Record.text?_eq_some.1 hraw))

theorem events_of_logs (h : r.logs ≠ []) : r.events = (Receipt.ofResults r.logs).groups := by
  rw [events, if_neg (by simpa using h)]

theorem events_of_rawLog (h : r.logs = []) : r.events = (Receipt.decodeText r.rawLog).groups := by
  rw [events, h]
  rfl

theorem events_eq_iff (h : read? (.object entries) = some r) :
    r.events = (Receipt.decode (some (.object entries))).groups ↔
      r.logs = [] → entries.lookup "raw_log" = none → (entries.lookup "events").isSome →
        TxResult.read? (Json.object entries) = none := by
  rw [Receipt.decode, Receipt.decodeWith]
  rcases logs_cases h with ⟨hlogs, item, items, hentry, hread⟩ | ⟨hlogs, hentry⟩
  · rw [Receipt.decodeObject_logs hentry, Receipt.decodeList, hread, events_of_logs hlogs]
    exact iff_of_true rfl fun hempty => absurd hempty hlogs
  · rw [events_of_rawLog hlogs]
    rcases rawLog_cases h with hraw | ⟨hraw, hempty⟩
    · rw [Receipt.decodeObject_rawLog hentry hraw, hraw]
      exact iff_of_true rfl fun _ hnone => absurd hnone (Option.some_ne_none _)
    · -- the text is empty, and so reads as nothing
      have hnothing : (Receipt.decodeText r.rawLog).groups = [] := by
        rw [hempty, Receipt.decodeText_unparseable rfl]
        rfl
      rw [hnothing, Receipt.groups_decodeObject hentry hraw]
      by_cases hevents : (entries.lookup "events").isSome
      · cases TxResult.read? (Json.object entries) <;> simp [hlogs, hraw, hevents]
      · simp [hevents]

/-- A receipt with a text, or without events of its own, has the same events whichever way it is read.
So they give the same number to a new proposal, and the same data to an execution. -/
theorem events_decoded (h : read? (.object entries) = some r)
    (hshape : (entries.lookup "raw_log").isSome ∨ entries.lookup "events" = none) :
    let groups := (Receipt.decode (some (.object entries))).groups
    r.events = groups ∧ ∀ (d : Dispatcher) (p : ProposalState), r.code = 0 →
      ∃ id data, d.outcomeOf p r = .ok (.submitted p.action r.hash id data) ∧
        id = (if p.action = .create then (Relay.created? groups).or p.id else p.id) ∧
        (p.action = .execute → data = Entries.ofList (
          (id.map fun id => ("proposalId", Json.ofNat id.toNat)).toList ++
            (d.afterExecute.bind (· groups)).getD [])) := by
  intro groups
  have hgroups : r.events = groups := by
    refine (events_eq_iff h).2 fun _ hraw hevents => ?_
    rcases hshape with hsome | hnone
    · rw [hraw] at hsome
      cases hsome
    · rw [hnone] at hevents
      cases hevents
  refine ⟨hgroups, fun d p hcode => ?_⟩
  rw [Dispatcher.outcomeOf, if_neg (not_not.2 hcode), hgroups]
  exact ⟨_, _, rfl, rfl, fun haction => by rw [if_pos haction]⟩

def proposalLog : String :=
  "[\x7b\"events\":[\x7b\"type\":\"wasm\",\"attributes\":[\x7b\"key\":\"proposal_id\"," ++
    "\"value\":\"9\"\x7d]\x7d]\x7d]"

def textual : List (String × Json) :=
  [("txhash", .text "AB12"), ("logs", .list []), ("events", .list []),
    ("raw_log", .text proposalLog)]

theorem events_decoded_textual : ∃ r, read? (.object textual) = some r ∧
    r.events = (Receipt.decode (some (.object textual))).groups ∧
    ∀ (d : Dispatcher) (p : ProposalState), p.action = .create →
      ∃ data, d.outcomeOf p r = .ok (.submitted .create "AB12" (some 9) data) := by
  have hread : read? (.object textual) = some ⟨"AB12", [], proposalLog, 0⟩ := rfl
  have hid : Relay.created? (Receipt.decode (some (.object textual))).groups = some 9 := by
    decide +kernel
  obtain ⟨hevents, hall⟩ := events_decoded hread (.inl rfl)
  refine ⟨_, hread, hevents, fun d p haction => ?_⟩
  obtain ⟨id, data, houtcome, hcreated, -⟩ := hall d p rfl
  rw [if_pos haction, hid, Option.some_or] at hcreated
  rw [houtcome, haction, hcreated]
  exact ⟨data, rfl⟩

end TxReceipt
end Countersign
