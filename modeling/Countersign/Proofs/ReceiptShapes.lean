import Countersign.Proofs.InnerTexts
import Countersign.Proofs.Receipts
import Mathlib

/-! Receipts that carry the same results, in whatever shape, are decoded alike: the results as a list or
alone, under `logs` of an object, or as text, which may be wrapped in text and objects again. The one
limit is that of reading: a text that nests too deeply is not read at all. -/

namespace Countersign

theorem mem_of_lookup {α : Type} {entries : List (String × α)} {key : String} {value : α}
    (h : entries.lookup key = some value) : (key, value) ∈ entries := by
  obtain ⟨before, after, rfl, -⟩ := List.lookup_eq_some_iff.1 h
  simp

theorem Json.Readable.entry {depth : ℕ} {entries : List (String × Json)} {e : String × Json}
    (h : Readable (depth + 1) (.object entries)) (he : e ∈ entries) : e.2.Readable depth := by
  cases h with
  | object _ h => exact h e he

namespace Receipt

/-! ### Texts are unwrapped until none is left -/

theorem decodeWith_congr {text text' : String → Decoded} {v : Json}
    (h : ∀ s, v.HasText s → text s = text' s) : decodeWith text v = decodeWith text' v := by
  cases v with
  | text s => exact h s .self
  | object entries =>
    rw [decodeWith, decodeWith, decodeObject.eq_def, decodeObject.eq_def]
    split
    · rfl
    · split
      · next raw hraw => exact h raw (.entry (mem_of_lookup hraw))
      · rfl
  | _ => rfl

theorem decodeLayers_eq {m n : ℕ} {raw : String} (hm : raw.utf8ByteSize < m)
    (hn : raw.utf8ByteSize < n) : decodeLayers m raw = decodeLayers n raw := by
  induction m generalizing n raw with
  | zero => omega
  | succ m ih =>
    obtain ⟨n, rfl⟩ := Nat.exists_eq_add_one_of_ne_zero (show n ≠ 0 by omega)
    rw [decodeLayers, decodeLayers]
    split
    · next v hv =>
      refine decodeWith_congr fun s hs => ?_
      have hshorter := hs.shorter hv
      exact ih (by omega) (by omega)
    · rfl

/-- A text is decoded as the value that it writes, however many texts are wrapped in it. -/
theorem decodeText_of_parse {raw : String} {v : Json} (h : Json.parse? raw = some v) :
    decodeText raw = decode (some v) := by
  rw [decodeText, decodeLayers, h]
  refine decodeWith_congr fun s hs => ?_
  have hshorter := hs.shorter h
  exact decodeLayers_eq hshorter (Nat.lt_succ_self _)

theorem decodeText_unparseable {raw : String} (h : Json.parse? raw = none) :
    decodeText raw = .nothing (.unparseable raw.utf8ByteSize) := by
  rw [decodeText, decodeLayers, h]

/-! ### Shapes -/

/-- Receipts that carry results: the list of them, or a single one, as they are written; an object with
the list as its `logs`; and the text of such a receipt, by itself or as the `raw_log` of an object that
has no results under `logs`. What is written as text has to be within the depth that is read. -/
inductive Carries (results : List TxResult) : Json → Prop
  | list : Carries results (.list (results.map TxResult.toJson))
  | single {r : TxResult} (h : results = [r]) : Carries results r.toJson
  | logs {entries : List (String × Json)} (h : results ≠ [])
      (hlogs : entries.lookup "logs" = some (.list (results.map TxResult.toJson))) :
      Carries results (.object entries)
  | quoted {v : Json} (h : Carries results v) (hread : v.Readable Document.greatestDepth) :
      Carries results (.text v.write)
  | rawLog {v : Json} {entries : List (String × Json)} (h : Carries results v)
      (hread : v.Readable Document.greatestDepth)
      (hlogs : ∀ item items, entries.lookup "logs" ≠ some (.list (item :: items)))
      (hraw : entries.lookup "raw_log" = some (.text v.write)) : Carries results (.object entries)

theorem decodeText_write {v : Json} (h : v.Readable Document.greatestDepth) :
    decodeText v.write = decode (some v) :=
  decodeText_of_parse (Json.parse?_write h)

theorem decodeList_results (results : List TxResult) :
    decodeList (results.map TxResult.toJson) = ofResults results := by
  rw [decodeList, mapM_map_eq_some TxResult.read?_toJson]

theorem toJson_entries (r : TxResult) : ∃ entries, r.toJson = .object entries ∧
    entries.lookup "logs" = none ∧ entries.lookup "raw_log" = none ∧
    (entries.lookup "events").isSome = true := by
  refine ⟨_, rfl, ?_⟩
  generalize hfields : (r.index.map fun n => ("msg_index", Json.ofNat n.toNat)).toList ++
    (r.log.map fun s => ("log", Json.text s)).toList = fields
  have hkeys : ∀ e ∈ fields, e.1 ∈ ["msg_index", "log"] := by
    intro e he
    simp only [← hfields, List.mem_append, Option.mem_toList, Option.map_eq_some_iff] at he
    rcases he with ⟨_, -, rfl⟩ | ⟨_, -, rfl⟩ <;> simp
  have hother : ∀ key, key ∉ ["msg_index", "log", "events"] → ∀ events : Json,
      (Entries.ofList (fields ++ [("events", events)])).lookup key = none := by
    intro key hkey events
    refine List.lookup_eq_none_iff.2 fun e he => bne_iff_ne.2 ?_
    rintro rfl
    rcases List.mem_append.1 (Entries.mem_ofList he) with hmem | hmem
    · exact hkey (List.mem_append_left ["events"] (hkeys e hmem))
    · exact hkey (by simp [List.mem_singleton.1 hmem])
  refine ⟨hother _ (by decide) _, hother _ (by decide) _, ?_⟩
  rw [Entries.ofList_concat, Entries.lookup_put_self]
  rfl

theorem decode_single (r : TxResult) : decode (some r.toJson) = ofResults [r] := by
  obtain ⟨entries, hentries, hlogs, hraw, hevents⟩ := toJson_entries r
  have hread : TxResult.read? (Json.object entries) = some r := hentries ▸ r.read?_toJson
  rw [hentries, decode, decodeWith, decodeObject.eq_def]
  simp only [hlogs, hraw, hevents, if_true, hread]

theorem decodeObject_logs {text : String → Decoded} {entries : List (String × Json)} {item : Json}
    {items : List Json} (hlogs : entries.lookup "logs" = some (.list (item :: items))) :
    decodeObject text entries = decodeList (item :: items) := by
  rw [decodeObject.eq_def, hlogs]

theorem decodeObject_rawLog {text : String → Decoded} {entries : List (String × Json)} {raw : String}
    (hlogs : ∀ item items, entries.lookup "logs" ≠ some (.list (item :: items)))
    (hraw : entries.lookup "raw_log" = some (.text raw)) : decodeObject text entries = text raw := by
  rw [decodeObject.eq_def, hraw]
  split
  · next item items hitems => exact absurd hitems (hlogs item items)
  · rfl

theorem groups_decodeObject {text : String → Decoded} {entries : List (String × Json)}
    (hlogs : ∀ item items, entries.lookup "logs" ≠ some (.list (item :: items)))
    (hraw : entries.lookup "raw_log" = none) : (decodeObject text entries).groups =
      if (entries.lookup "events").isSome then
        ((TxResult.read? (Json.object entries)).map TxResult.group).toList
      else [] := by
  rw [decodeObject.eq_def, hraw]
  split
  · next item items hitems => exact absurd hitems (hlogs item items)
  · by_cases hevents : (entries.lookup "events").isSome
    · rw [if_pos hevents, if_pos hevents]
      cases TxResult.read? (Json.object entries) <;> rfl
    · rw [if_neg hevents, if_neg hevents]
      rfl

theorem Carries.decode {results : List TxResult} {v : Json} (h : Carries results v) :
    decode (some v) = ofResults results := by
  induction h with
  | list => exact decodeList_results results
  | @single r h =>
    subst h
    exact decode_single r
  | @logs entries hne hlogs =>
    cases results with
    | nil => exact absurd rfl hne
    | cons r rest =>
      rw [Receipt.decode, decodeWith, decodeObject_logs hlogs]
      exact decodeList_results (r :: rest)
  | quoted _ hread ih => exact (decodeText_write hread).trans ih
  | rawLog _ hread hlogs hraw ih =>
    rw [Receipt.decode, decodeWith, decodeObject_rawLog hlogs hraw]
    exact (decodeText_write hread).trans ih

/-! ### What does not read -/

theorem decodeList_unreadable {items : List Json} {item : Json} (hmem : item ∈ items)
    (hitem : TxResult.read? item = none) : decodeList items = .nothing .malformedResults := by
  rw [decodeList]
  cases hread : items.mapM TxResult.read? with
  | none => rfl
  | some results =>
    obtain ⟨i, hi, rfl⟩ := List.getElem_of_mem hmem
    have hresults := mapM_eq_some_iff.1 hread
    have hsome := hresults.get hi (hresults.length_eq ▸ hi)
    simp [hitem] at hsome

/-- All receipts that carry results are decoded as those results, one group for each, and so is the text
of any value that is not too deep to be read; a deeper one gives nothing, and so does a list with an
item that is no result. -/
theorem shapes_alike (results : List TxResult) :
    (decode (some (.list (results.map TxResult.toJson)))).groups = results.map TxResult.group ∧
    (∀ v, Carries results v → decode (some v) = ofResults results) ∧
    (∀ (v : Json) (depth : ℕ), v.Readable depth →
      (v.Readable Document.greatestDepth → decodeText v.write = decode (some v)) ∧
      (¬v.Readable Document.greatestDepth → (decodeText v.write).groups = [])) ∧
    ∀ items : List Json, (∃ item ∈ items, TxResult.read? item = none) →
      (decode (some (.list items))).groups = [] := by
  have hlist : Carries results (.list (results.map TxResult.toJson)) := .list
  refine ⟨congrArg Decoded.groups hlist.decode, fun v h => h.decode,
    fun v depth hv => ⟨decodeText_write, fun hdeep => ?_⟩, ?_⟩
  · rw [decodeText_unparseable (Json.parse?_write_eq_none hv hdeep)]
    rfl
  · rintro items ⟨item, hmem, hitem⟩
    rw [decode, decodeWith, decodeList_unreadable hmem hitem]
    rfl

/-! ### Too deep to be read -/

def nested : ℕ → Json
  | 0 => .null
  | n + 1 => .list [nested n]

theorem nested_readable_iff {n depth : ℕ} : (nested n).Readable depth ↔ n ≤ depth := by
  induction n generalizing depth with
  | zero => exact iff_of_true .null (Nat.zero_le depth)
  | succ n ih =>
    constructor
    · intro h
      cases h with
      | list h =>
        have hinner := ih.1 (h _ (List.mem_singleton_self _))
        omega
    · intro h
      obtain ⟨depth, rfl⟩ := Nat.exists_eq_add_one_of_ne_zero (show depth ≠ 0 by omega)
      refine .list fun v hv => ?_
      rw [List.mem_singleton.1 hv]
      exact ih.2 (by omega)

/-- A receipt whose memo nests too deeply is decoded, but its text is not. -/
theorem deep_memo_unread :
    let opened : TxResult := { events := [⟨"wasm", [⟨"proposal_id", "7"⟩]⟩] }
    let receipt : Json := .object [("logs", .list [opened.toJson]), ("memo", nested 127)]
    Carries [opened] receipt ∧ (decode (some receipt)).groups = [opened.group] ∧
      (decodeText receipt.write).groups = [] := by
  intro opened receipt
  have hcarries : Carries [opened] receipt := .logs (by simp) rfl
  have hvalue : receipt.Readable 128 := by
    refine .object (by decide) fun e he => ?_
    simp only [List.mem_cons, List.not_mem_nil, or_false] at he
    rcases he with rfl | rfl
    · refine .list fun v hv => ?_
      rw [List.mem_singleton.1 hv]
      exact opened.readable 121
    · exact nested_readable_iff.2 le_rfl
  have hdeep : ¬receipt.Readable Document.greatestDepth := fun h =>
    absurd (nested_readable_iff.1 (h.entry (List.mem_cons_of_mem _
      (List.mem_singleton_self ("memo", nested 127))))) (by decide)
  refine ⟨hcarries, congrArg Decoded.groups hcarries.decode, ?_⟩
  rw [decodeText_unparseable (Json.parse?_write_eq_none hvalue hdeep)]
  rfl

end Receipt
end Countersign
