import Countersign.Oracle.Relay
import Countersign.Proofs.ChainCalls
import Mathlib

/-! Results of a transaction that travel as JSON text: decoding the text gives the results back. -/

namespace Countersign

theorem Json.Readable.ofEntries {depth : ℕ} {entries : List (String × Json)}
    (h : ∀ e ∈ entries, Readable depth e.2) : Readable (depth + 1) (.ofEntries entries) :=
  .object (Entries.ascending_ofList entries) fun e he => h e (Entries.mem_ofList he)

theorem Json.readable_ofNat {n depth : ℕ} (h : n < 2 ^ 64) : Readable depth (.ofNat n) := by
  refine .int ?_
  simp only [isInteger, Bool.and_eq_true, decide_eq_true_eq]
  omega

theorem Json.readable_word (n : UInt32) {depth : ℕ} : Readable depth (.ofNat n.toNat) :=
  readable_ofNat (n.toNat_lt.trans (by norm_num))

theorem Record.word32?_ofNat (n : UInt32) : Record.word32? (Json.ofNat n.toNat) = some n := by
  have hn : n.toNat < 2 ^ (32 : Nat) := n.toNat_lt
  change (Record.below? (2 ^ (32 : Nat)) (Json.int n.toNat)).map UInt32.ofNat = some n
  simp only [Record.below?, Source.shape, Json.shape, Int.natCast_nonneg, if_true, Int.toNat_natCast,
    hn, Option.map_some, UInt32.ofNat_toNat]

namespace Attribute

theorem read?_toJson (a : Attribute) : read? a.toJson = some a := rfl

theorem readable (a : Attribute) (depth : ℕ) : a.toJson.Readable (depth + 1) :=
  .ofEntries (by simpa using ⟨.text a.key, .text a.value⟩)

end Attribute

namespace Event

theorem read?_toJson (e : Event) : read? e.toJson = some e := by
  change (Record.list? Attribute.read? (Json.list (e.attributes.map Attribute.toJson))).bind
    (fun attributes => some (mk e.kind attributes)) = _
  rw [Record.list?_map e.attributes Attribute.read?_toJson, Option.bind_some]

theorem readable (e : Event) (depth : ℕ) : e.toJson.Readable (depth + 3) := by
  have hattributes : ∀ v ∈ e.attributes.map Attribute.toJson, v.Readable (depth + 1) := by
    intro v hv
    obtain ⟨a, -, rfl⟩ := List.mem_map.1 hv
    exact a.readable depth
  exact .ofEntries (by simpa using ⟨.text e.kind, .list hattributes⟩)

end Event

namespace TxResult

theorem read?_toJson (r : TxResult) : read? r.toJson = some r := by
  obtain ⟨index, log, events⟩ := r
  have hevents : Record.list? Event.read? (Json.list (events.map Event.toJson)) = some events :=
    Record.list?_map events Event.read?_toJson
  -- an index and a log that are not there are left out, so there is an object for each case
  cases index with
  | none =>
    suffices ((Record.list? Event.read? (Json.list (events.map Event.toJson))).bind
        fun events => some (mk none log events)) = some ⟨none, log, events⟩ by
      cases log <;> exact this
    rw [hevents, Option.bind_some]
  | some index =>
    have hindex : Record.nullable? Record.word32? (Json.ofNat index.toNat) = some (some index) :=
      congrArg (Option.map some) (Record.word32?_ofNat index)
    suffices ((Record.nullable? Record.word32? (Json.ofNat index.toNat)).bind fun index =>
        (Record.list? Event.read? (Json.list (events.map Event.toJson))).bind
          fun events => some (mk index log events)) = some ⟨some index, log, events⟩ by
      cases log <;> exact this
    rw [hindex, hevents, Option.bind_some, Option.bind_some]

theorem readable (r : TxResult) (depth : ℕ) : r.toJson.Readable (depth + 5) := by
  have hevents : ∀ v ∈ r.events.map Event.toJson, v.Readable (depth + 3) := by
    intro v hv
    obtain ⟨e, -, rfl⟩ := List.mem_map.1 hv
    exact e.readable depth
  refine .ofEntries fun e he => ?_
  simp only [List.mem_append, Option.mem_toList, Option.map_eq_some_iff,
    List.mem_singleton] at he
  rcases he with (⟨n, -, rfl⟩ | ⟨s, -, rfl⟩) | rfl
  · exact Json.readable_word n
  · exact .text s
  · exact .list hevents

theorem readable_list (results : List TxResult) :
    (Json.list (results.map toJson)).Readable Document.greatestDepth := by
  refine .list fun v hv => ?_
  obtain ⟨r, -, rfl⟩ := List.mem_map.1 hv
  exact r.readable 121

end TxResult

namespace Receipt

theorem decodeText_results (results : List TxResult) :
    decodeText (Json.list (results.map TxResult.toJson)).write = ofResults results := by
  rw [decodeText, decodeLayers, Json.parse?_write (TxResult.readable_list results)]
  change decodeList _ = _
  rw [decodeList, mapM_map_eq_some TxResult.read?_toJson]

end Receipt

theorem Relay.created?_of_first {g : EventGroup} {groups : List EventGroup} {id : String}
    (h : g.first? wasm proposalId = some id) :
    created? (g :: groups) = Text.word64? (Text.trimmed id.toList) := by
  simp only [created?, List.head?_cons, Option.bind_eq_bind, Option.bind_some, h]

namespace Chain

theorem receipt_events (attributes : List (String × String)) :
    (receipt attributes).events =
      [.ofEvents [⟨"wasm", attributes.map fun (key, value) => ⟨key, value⟩⟩]] :=
  congrArg Receipt.Decoded.groups (Receipt.decodeText_results [_])

theorem created?_propose (c : Chain) (signer contract : String) (call : Json) :
    Relay.created? (c.propose signer contract call).1.events =
      some c.next := by
  have hfirst : (EventGroup.ofEvents [⟨"wasm", [("contract_address", contract),
      ("action", "propose"),
      ("proposal_id", toString c.next)].map
        fun (key, value) => ⟨key, value⟩⟩]).first? Relay.wasm Relay.proposalId =
      some (toString c.next) := rfl
  have hreceipt : (c.propose signer contract call).1 = receipt [("contract_address", contract),
    ("action", "propose"), ("proposal_id", toString c.next)] := rfl
  rw [hreceipt, receipt_events, Relay.created?_of_first hfirst, Text.word64?_toString]

end Chain
end Countersign
