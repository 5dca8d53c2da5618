import Countersign.Feed.Frame
import Countersign.Proofs.ReceiptShapes
import Countersign.Proofs.WrittenRecords
import Mathlib

/-! The log of a transaction read straight into results, as the frames of a socket are, and read as a
value first, as receipts are. -/

namespace Countersign

theorem Record.text?_eq_some {v : Json} {s : String} : Record.text? v = some s ↔ v = .text s := by
  cases v with
  | text t => simp [text?, Source.shape, Json.shape]
  | int i => by_cases hi : 0 ≤ i <;> simp [text?, Source.shape, Json.shape, hi]
  | _ => simp [text?, Source.shape, Json.shape]

theorem Record.list?_eq_some {α : Type} {read : Json → Option α} {v : Json} {values : List α} :
    Record.list? read v = some values ↔ ∃ items, v = .list items ∧ items.mapM read = some values := by
  cases v with
  | list items => simp [list?, Source.shape, Json.shape]
  | int i => by_cases hi : 0 ≤ i <;> simp [list?, Source.shape, Json.shape, hi]
  | _ => simp [list?, Source.shape, Json.shape]

namespace Attribute

def repeats (d : Document) : Bool :=
  Record.repeats ["key", "value"] d

theorem agrees : Record.Agrees repeats read? read? := by
  have h : Record.Agrees (fun d => repeats d || false) read? read? := by
    refine Record.Agrees.record fun d f g _ hfields => ?_
    have hkey := Record.agrees_text.required (hfields "key" (by simp))
    have hvalue := Record.agrees_text.withDefault (hfields "value" (by simp)) ""
    rw [hkey, hvalue]
    simp
  simpa only [Bool.or_false] using h

end Attribute

namespace Event

def repeats (d : Document) : Bool :=
  let names := ["type", "attributes"]
  Record.repeats names d ||
    (Record.field? names "attributes" d).any fun d => (Record.items d).any Attribute.repeats

theorem agrees : Record.Agrees repeats read? read? := by
  refine Record.Agrees.record fun d f g hnamed hfields => ?_
  have hkind := Record.agrees_text.required (hfields "type" (by simp))
  have hattributes := Attribute.agrees.list.withDefault (hfields "attributes" (by simp)) []
  rw [hnamed "attributes" (by simp)] at hattributes
  rw [hkind, hattributes]
  by_cases hbad : (Record.field? ["type", "attributes"] "attributes" d).any
      fun d => (Record.items d).any Attribute.repeats
  · simp [hbad]
  · simp [hbad]

end Event

namespace TxResult

def repeats (d : Document) : Bool :=
  let names := ["msg_index", "log", "events"]
  Record.repeats names d ||
    (Record.field? names "events" d).any fun d => (Record.items d).any Event.repeats

theorem agrees : Record.Agrees repeats read? read? := by
  refine Record.Agrees.record fun d f g hnamed hfields => ?_
  have hindex := Record.agrees_word32.nullable.withDefault (hfields "msg_index" (by simp)) none
  have hlog := Record.agrees_text.nullable.withDefault (hfields "log" (by simp)) none
  have hevents := Event.agrees.list.withDefault (hfields "events" (by simp)) []
  rw [hnamed "events" (by simp)] at hevents
  rw [hindex, hlog, hevents]
  by_cases hbad : (Record.field? ["msg_index", "log", "events"] "events" d).any
      fun d => (Record.items d).any Event.repeats
  · simp [hbad]
  · simp [hbad]

end TxResult

/-! ### Documents without repeated keys -/

namespace Document

variable {d : Document} {names : List String}

theorem eq_of_shape_list {items : List Document} (h : Source.shape d = .list items) :
    d = .list items := by
  change d.shape = .list items at h
  cases d with
  | number n =>
    rw [shape] at h
    split at h
    · split at h <;> cases h
    · cases h
  | text s => cases s <;> cases h
  | object entries =>
    rw [shape] at h
    split at h <;> cases h
  | list items => cases h; rfl
  | _ => cases h

theorem eq_of_shape_object {named : List (String × Document)}
    (h : Source.shape d = .object named) :
    d = .object (named.map fun e => (some e.1, e.2)) := by
  change d.shape = .object named at h
  cases d with
  | number n =>
    rw [shape] at h
    split at h
    · split at h <;> cases h
    · cases h
  | text s => cases s <;> cases h
  | object entries =>
    rw [shape] at h
    split at h
    · next es hes =>
      cases h
      have hall := mapM_eq_some_iff.1 hes
      clear hes
      congr 1
      induction hall with
      | nil => rfl
      | @cons e a entries named he _ ih =>
        obtain ⟨key, d⟩ := e
        obtain ⟨k, rfl, rfl⟩ := Option.map_eq_some_iff.1 he
        rw [List.map_cons, ← ih]
    · cases h
  | _ => cases h

namespace DistinctKeys

theorem shape_list {items : List Document} (h : d.DistinctKeys)
    (hshape : Source.shape d = .list items) : ∀ item ∈ items, item.DistinctKeys := by
  obtain rfl := eq_of_shape_list hshape
  cases h with
  | list h => exact h

theorem shape_object {named : List (String × Document)} (h : d.DistinctKeys)
    (hshape : Source.shape d = .object named) :
    (named.map Prod.fst).Nodup ∧ ∀ e ∈ named, e.2.DistinctKeys := by
  obtain rfl := eq_of_shape_object hshape
  cases h with
  | object hkeys h =>
    refine ⟨?_, fun e he => h (some e.1, e.2) (List.mem_map_of_mem he)⟩
    simpa [List.filterMap_map, Function.comp_def] using hkeys

theorem repeats_eq_false (h : d.DistinctKeys) : Record.repeats names d = false := by
  rw [Record.repeats]
  cases hshape : Source.shape d with
  | object named => simpa using (h.shape_object hshape).1.filter _
  | _ => rfl

theorem items (h : d.DistinctKeys) : ∀ item ∈ Record.items d, item.DistinctKeys := by
  rw [Record.items]
  cases hshape : Source.shape d with
  | list items => exact h.shape_list hshape
  | _ => simp

theorem field {name : String} {inner : Document} (h : d.DistinctKeys)
    (hinner : Record.field? names name d = some inner) : inner.DistinctKeys := by
  rw [Record.field?] at hinner
  cases hshape : Source.shape d with
  | object named =>
    rw [hshape] at hinner
    exact (h.shape_object hshape).2 _ (mem_of_lookup hinner)
  | list items =>
    rw [hshape] at hinner
    exact h.shape_list hshape _ (List.of_mem_zip (mem_of_lookup hinner)).2
  | _ =>
    rw [hshape] at hinner
    cases hinner

theorem record {bad : Document → Bool} (hbad : ∀ d, d.DistinctKeys → bad d = false)
    (h : d.DistinctKeys) (name : String) : (Record.repeats names d ||
      (Record.field? names name d).any fun d => (Record.items d).any bad) = false := by
  rw [h.repeats_eq_false, Bool.false_or]
  cases hfield : Record.field? names name d with
  | none => rfl
  | some inner =>
    rw [Option.any_some, List.any_eq_false]
    exact fun item hitem => by simp [hbad item ((h.field hfield).items item hitem)]

end DistinctKeys
end Document

theorem Attribute.repeats_of_distinctKeys (d : Document) (h : d.DistinctKeys) :
    repeats d = false :=
  h.repeats_eq_false

theorem Event.repeats_of_distinctKeys (d : Document) (h : d.DistinctKeys) : repeats d = false :=
  h.record Attribute.repeats_of_distinctKeys "attributes"

theorem TxResult.repeats_of_distinctKeys (d : Document) (h : d.DistinctKeys) : repeats d = false :=
  h.record Event.repeats_of_distinctKeys "events"

namespace Feed

/-- Some result, event or attribute in the log has more than one entry for one of its fields. -/
def repeatsIn (log : String) : Bool :=
  (Document.parse? log).any fun d => (Record.items d).any TxResult.repeats

variable {log : String}

theorem resultsOfText?_eq {v : Json} (h : Json.parse? log = some v) :
    resultsOfText? log = if repeatsIn log then none else Record.list? TxResult.read? v := by
  obtain ⟨d, hd, hv⟩ := Option.bind_eq_some_iff.1 h
  have hparse : Document.parse? log = some d := hd
  rw [resultsOfText?, repeatsIn, hparse, Option.bind_some, Option.any_some]
  exact TxResult.agrees.list d v ⟨_, hv⟩

theorem decodeText_of_list {items : List Json} (h : Json.parse? log = some (.list items))
    {results : List TxResult} (hread : items.mapM TxResult.read? = some results) :
    Receipt.decodeText log = Receipt.ofResults results := by
  rw [Receipt.decodeText_of_parse h, Receipt.decode, Receipt.decodeWith, Receipt.decodeList, hread]

theorem repeatsIn_write {v : Json} {depth : ℕ} (h : v.Readable depth) :
    repeatsIn v.write = false := by
  obtain ⟨d, hwrites, -, hascending⟩ := h.document
  have hdistinct := hascending.distinctKeys
  have hparse : Document.parse? v.write = some d := by
    rw [Document.parse?, Json.write, String.toList_ofList, hwrites.ofChars?]
  rw [repeatsIn, hparse, Option.any_some, List.any_eq_false]
  exact fun item hitem => by simp [TxResult.repeats_of_distinctKeys item (hdistinct.items item hitem)]

/-- For a log that reads as a value, both ways give the same groups wherever the typed one reads it;
and the typed one reads a list of results unless a field is repeated in it. -/
theorem readers_agree {v : Json} (h : Json.parse? log = some v) :
    (∀ results, resultsOfText? log = some results →
      Receipt.decodeText log = Receipt.ofResults results) ∧
    ∀ items results, v = .list items → items.mapM TxResult.read? = some results →
      (repeatsIn log = true → resultsOfText? log = none) ∧
        (repeatsIn log = false → resultsOfText? log = some results) := by
  have htyped := resultsOfText?_eq h
  refine ⟨fun results hresults => ?_, ?_⟩
  · rw [htyped] at hresults
    split at hresults
    · cases hresults
    · obtain ⟨items, rfl, hread⟩ := Record.list?_eq_some.1 hresults
      exact decodeText_of_list h hread
  · rintro items results rfl hread
    have hlist : Record.list? TxResult.read? (Json.list items) = some results := hread
    rw [htyped, hlist]
    exact ⟨fun hrepeats => if_pos hrepeats, fun hrepeats => by simp [hrepeats]⟩

def looseLog : String :=
  "[\x7b\"memo\":1,\"events\":[[\"wasm\",[\x7b\"key\":\"a\",\"value\":\"b\"\x7d,[\"c\"]]]," ++
    "\x7b\"type\":\"tx\"\x7d],\"memo\":2\x7d]"

def repeatingLog : String :=
  "[[null,null,[[\"wasm\",[\x7b\"key\":\"a\",\"value\":\"b\",\"value\":\"c\"\x7d]]]]]"

theorem readers_agree_loose :
    let results := [⟨none, none, [⟨"wasm", [⟨"a", "b"⟩, ⟨"c", ""⟩]⟩, ⟨"tx", []⟩]⟩]
    (repeatsIn looseLog = false ∧ resultsOfText? looseLog = some results ∧
      Receipt.decodeText looseLog = Receipt.ofResults results) ∧
    repeatsIn repeatingLog = true ∧ resultsOfText? repeatingLog = none := by
  intro results
  have hloose : (Json.parse? looseLog).bind (Record.list? TxResult.read?) = some results := by
    decide +kernel
  have hrepeating : (Json.parse? repeatingLog).bind (Record.list? TxResult.read?) =
      some [⟨none, none, [⟨"wasm", [⟨"a", "c"⟩]⟩]⟩] := by
    decide +kernel
  have hnot : repeatsIn looseLog = false := by decide +kernel
  have htwice : repeatsIn repeatingLog = true := by decide +kernel
  obtain ⟨v, hv, hlist⟩ := Option.bind_eq_some_iff.1 hloose
  obtain ⟨items, rfl, hread⟩ := Record.list?_eq_some.1 hlist
  obtain ⟨w, hw, hlist'⟩ := Option.bind_eq_some_iff.1 hrepeating
  obtain ⟨items', rfl, hread'⟩ := Record.list?_eq_some.1 hlist'
  have htyped := ((readers_agree hv).2 items results rfl hread).2 hnot
  exact ⟨⟨hnot, htyped, (readers_agree hv).1 results htyped⟩, htwice,
    ((readers_agree hw).2 items' _ rfl hread').1 htwice⟩

end Feed
end Countersign
