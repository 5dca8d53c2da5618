import Countersign.Oracle.Extract
import Countersign.Proofs.Grouping
import Mathlib

/-! What is extracted from the results of a transaction, transmission by transmission. Each one gives
what its own attributes state, whatever stands beside it. -/

namespace Countersign

variable {α : Type}

namespace Event

def first? (e : Event) (key : String) : Option String :=
  (e.attributes.find? fun a => a.key = key).map Attribute.value

def number? (e : Event) (read : List Char → Option α) (key : String) : Option α :=
  (e.first? key).bind fun value => read (Text.trimmed value.toList)

end Event

def Round.ofEvent? (e : Event) : Option Round := do
  return {
    answer := ← e.number? Text.signed? "answer"
    round := ← e.number? Text.word32? "round"
    epoch := ← e.number? Text.word32? "epoch" }

def SourcedRound.ofEvent? (e : Event) : Option SourcedRound :=
  (Round.ofEvent? e).map fun round => { contract := e.first? "contract_address", round }

/-! ### One event -/

theorem Attributes.text?_ofList (e : Event) (key : String) :
    text? (ofList e.attributes) key = e.first? key := by
  rw [text?, get?_ofList, Event.first?, ← List.head?_filter, ← List.head?_map]
  split
  · rfl
  · next hnone => exact congrArg List.head? (Attribute.valuesOf_eq_nil hnone).symm

theorem Attributes.required_ofList (e : Event) (read : List Char → Option α) (key : String) :
    (required read (ofList e.attributes) key).toOption = e.number? read key := by
  rw [required, text?_ofList, Event.number?]
  cases e.first? key with
  | none => rfl
  | some value =>
    dsimp only
    rw [integer, Option.bind_some]
    cases read (Text.trimmed value.toList) <;> rfl

theorem toOption_bind {ε β : Type} (x : Except ε α) (f : α → Except ε β) :
    (x >>= f).toOption = x.toOption.bind fun a => (f a).toOption := by
  cases x <;> rfl

theorem Round.decode_ofList (e : Event) :
    (decode (Attributes.ofList e.attributes)).toOption = ofEvent? e := by
  simp only [decode, toOption_bind, Attributes.required_ofList, ofEvent?]
  rfl

theorem SourcedRound.decode_ofList (e : Event) :
    (decode (Attributes.ofList e.attributes)).toOption = ofEvent? e := by
  simp only [decode, toOption_bind, Round.decode_ofList, ofEvent?, Attributes.text?_ofList]
  cases Round.ofEvent? e <;> rfl

/-! ### All events -/

theorem transmissionEvents_results (results : List TxResult) :
    transmissionEvents (Receipt.ofResults results).groups =
      (Event.ofKind newTransmission (results.flatMap TxResult.events)).map
        fun e => Attributes.ofList e.attributes := by
  rw [transmissionEvents, Receipt.ofResults, List.flatMap_map, Event.ofKind, List.filter_flatMap,
    List.map_flatMap]
  refine congrArg (List.flatMap · results) (funext fun r => ?_)
  exact EventGroup.occurrences_ofEvents newTransmission r.events

namespace Extraction

variable {decode : Attributes → Except DecodeError α} {own : Event → Option α}

theorem found_decodeFrom (decode : Attributes → Except DecodeError α) (position : ℕ)
    (events : List Attributes) : (decodeFrom decode position events).found =
      events.filterMap fun attrs => (decode attrs).toOption := by
  induction events generalizing position with
  | nil => rfl
  | cons attrs rest ih =>
    rw [decodeFrom, List.filterMap_cons, ← ih (position + 1)]
    cases decode attrs <;> rfl

theorem found_results (h : ∀ e, (decode (Attributes.ofList e.attributes)).toOption = own e)
    (results : List TxResult) : (of decode (Receipt.ofResults results).groups).found =
      (Event.ofKind newTransmission (results.flatMap TxResult.events)).filterMap own := by
  rw [of, found_decodeFrom, transmissionEvents_results, List.filterMap_map]
  exact congrArg (List.filterMap · _) (funext h)

/-- An extraction is the list of what the transmissions give by themselves. -/
structure ByEvent (extract : List EventGroup → Extraction α) (own : Event → Option α) : Prop where
  found : ∀ results, (extract (Receipt.ofResults results).groups).found =
    (Event.ofKind newTransmission (results.flatMap TxResult.events)).filterMap own
  append : ∀ results more, (extract (Receipt.ofResults (results ++ more)).groups).found =
    (extract (Receipt.ofResults results).groups).found ++
      (extract (Receipt.ofResults more).groups).found
  /-- Whatever stands before or after an event, in its own result or in others, it gives the same,
  and so does what stands before and after it. -/
  apart : ∀ earlier (r : TxResult) before e after later,
    (extract (Receipt.ofResults
        (earlier ++ { r with events := before ++ e :: after } :: later)).groups).found =
      (extract (Receipt.ofResults (earlier ++ [{ r with events := before }])).groups).found ++
        (if e.kind = newTransmission then (own e).toList else []) ++
        (extract (Receipt.ofResults ({ r with events := after } :: later)).groups).found

theorem byEvent (h : ∀ e, (decode (Attributes.ofList e.attributes)).toOption = own e) :
    ByEvent (of decode) own where
  found := found_results h
  append results more := by
    simp only [found_results h, Event.ofKind, List.flatMap_append, List.filter_append,
      List.filterMap_append]
  apart earlier r before e after later := by
    have hown : ([e].filter fun e => e.kind = newTransmission).filterMap own =
        if e.kind = newTransmission then (own e).toList else [] := by
      by_cases he : e.kind = newTransmission
      · cases hgiven : own e <;> simp [he, hgiven]
      · simp [he]
    rw [← hown]
    simp only [found_results h, Event.ofKind, List.append_cons before e after,
      List.flatMap_append, List.flatMap_cons, List.flatMap_nil, List.append_nil,
      List.filter_append, List.filterMap_append, List.append_assoc]

end Extraction

/-- Rounds are extracted event by event, with or without the contract that emitted them. -/
theorem rounds_byEvent : Extraction.ByEvent extractRounds Round.ofEvent? ∧
    Extraction.ByEvent extractSourcedRounds SourcedRound.ofEvent? :=
  ⟨Extraction.byEvent Round.decode_ofList, Extraction.byEvent SourcedRound.decode_ofList⟩

example :
    let incomplete : Event := ⟨newTransmission, [⟨"answer", "5"⟩, ⟨"round", "1"⟩]⟩
    let complete : Event := ⟨newTransmission, [⟨"answer", "6"⟩, ⟨"round", "2"⟩, ⟨"epoch", "3"⟩]⟩
    (extractRounds (Receipt.ofResults [{ events := [incomplete, complete] }]).groups).found =
      [{ answer := 6, round := 2, epoch := 3 }] := by
  decide +kernel

end Countersign
