import Countersign.Proofs.Candidate
import Countersign.Proofs.ReceiptShapes
import Mathlib

/-! The form in which messages are compared stays as it is when it is brought to that form again, and a
message prepared locally has it from the start, even when its call nests too deeply to be read back. -/

namespace Countersign

namespace Json

/-- Every number of the value is an integer of 64 bits, signed or not. -/
inductive Integral : Json → Prop
  | null : Integral .null
  | bool (b : Bool) : Integral (.bool b)
  | int {i : ℤ} (h : isInteger i = true) : Integral (.int i)
  | text (s : String) : Integral (.text s)
  | list {items : List Json} (h : ∀ v ∈ items, Integral v) : Integral (.list items)
  | object {entries : List (String × Json)} (h : ∀ e ∈ entries, Integral e.2) :
      Integral (.object entries)

mutual

def depth : Json → ℕ
  | .list items => itemsDepth items + 1
  | .object entries => entriesDepth entries + 1
  | _ => 0

def itemsDepth : List Json → ℕ
  | [] => 0
  | v :: rest => max v.depth (itemsDepth rest)

def entriesDepth : List (String × Json) → ℕ
  | [] => 0
  | (_, v) :: rest => max v.depth (entriesDepth rest)

end

theorem depth_le_items {items : List Json} {v : Json} (h : v ∈ items) :
    v.depth ≤ itemsDepth items := by
  induction items with
  | nil => cases h
  | cons w rest ih =>
    rw [itemsDepth]
    rcases List.mem_cons.1 h with rfl | h
    · exact le_max_left _ _
    · exact (ih h).trans (le_max_right _ _)

theorem depth_le_entries {entries : List (String × Json)} {e : String × Json} (h : e ∈ entries) :
    e.2.depth ≤ entriesDepth entries := by
  induction entries with
  | nil => cases h
  | cons d rest ih =>
    rw [entriesDepth]
    rcases List.mem_cons.1 h with rfl | h
    · exact le_max_left _ _
    · exact (ih h).trans (le_max_right _ _)

theorem Integral.readable_sorted {v : Json} (h : v.Integral) {n : ℕ} (hn : v.depth ≤ n) :
    v.sorted.Readable n := by
  induction h generalizing n with
  | null => rw [sorted] <;> simp [Readable.null]
  | bool b => rw [sorted] <;> simp [Readable.bool]
  | int h => rw [sorted] <;> simp [Readable.int h]
  | text s => rw [sorted] <;> simp [Readable.text]
  | @list items _ ih =>
    rw [depth] at hn
    obtain ⟨n, rfl⟩ := Nat.exists_eq_add_one_of_ne_zero (show n ≠ 0 by omega)
    rw [sorted, sortedItems_eq_map]
    refine .list (List.forall_mem_map.2 fun v hv => ih v hv ?_)
    exact (depth_le_items hv).trans (Nat.le_of_succ_le_succ hn)
  | @object entries _ ih =>
    rw [depth] at hn
    obtain ⟨n, rfl⟩ := Nat.exists_eq_add_one_of_ne_zero (show n ≠ 0 by omega)
    rw [sorted, sortedEntries_eq_map]
    refine .object (Entries.ascending_ofList _) fun e he => ?_
    obtain ⟨d, hd, rfl⟩ := List.mem_map.1 (Entries.mem_ofList he)
    exact ih d hd ((depth_le_entries hd).trans (Nat.le_of_succ_le_succ hn))

end Json

namespace Coin

theorem ordered_eq_self {coins : List Coin} (h : coins.Pairwise (·.denom ≤ ·.denom)) :
    ordered coins = coins :=
  eq_of_filter_eq (sorted_ordered coins) h fun denom => filter_ordered denom coins

theorem plain_plain {c : Coin} (h : c.amount?.isSome) : c.plain.plain = c.plain := by
  rw [plain, amount?_plain h]
  rfl

theorem canonicalList_self {coins cs : List Coin} (h : canonicalList coins = .ok cs) :
    canonicalList cs = .ok cs := by
  obtain ⟨hread, rfl⟩ := canonicalList_eq_ok.1 h
  have hplain : ∀ c ∈ ordered (coins.map plain), c.amount?.isSome ∧ c.plain = c := by
    intro c hc
    obtain ⟨d, hd, rfl⟩ := List.mem_map.1 ((ordered_perm _).mem_iff.1 hc)
    exact ⟨by rw [amount?_plain (hread d hd)]; exact hread d hd, plain_plain (hread d hd)⟩
  refine canonicalList_eq_ok.2 ⟨fun c hc => (hplain c hc).1, ?_⟩
  rw [List.map_congr_left fun c hc => (hplain c hc).2, List.map_id', ordered_eq_self (sorted_ordered _)]

end Coin

namespace StoredMessage

theorem payloadJson?_encodeJson (v : Json) :
    payloadJson? (encodeJson v) = Json.parse? v.sorted.write := by
  rw [payloadJson?, payloadBytes?_encodeJson, Option.bind_some, Base64.toText?_eq_some.2 rfl,
    Option.bind_some]

theorem canonicalPayload_encodeJson_self {v : Json} (h : v.Integral) :
    canonicalPayload (encodeJson v) = .ok (encodeJson v) := by
  have hdepth := h.readable_sorted le_rfl
  refine canonicalPayload_eq_ok.2 ⟨_, payloadBytes?_encodeJson v, ?_⟩
  rw [payloadJson?_encodeJson]
  by_cases hreadable : v.sorted.Readable Document.greatestDepth
  · rw [Json.parse?_write hreadable]
    exact (encodeJson_eq hreadable).symm
  · rw [Json.parse?_write_eq_none hdepth hreadable]
    rfl

theorem canonicalPayload_self {payload p : String} (h : canonicalPayload payload = .ok p)
    (hintegral : ∀ v, payloadJson? payload = some v → v.Integral) : canonicalPayload p = .ok p := by
  obtain ⟨bytes, hbytes, rfl⟩ := canonicalPayload_eq_ok.1 h
  cases hread : payloadJson? payload with
  | some v => exact canonicalPayload_encodeJson_self (hintegral v hread)
  | none =>
    have hunread : payloadJson? (Base64.ofBytes bytes) = none := by
      rw [payloadJson?, hbytes] at hread
      rwa [payloadJson?, payloadBytes?_ofBytes]
    refine canonicalPayload_eq_ok.2 ⟨bytes, payloadBytes?_ofBytes bytes, ?_⟩
    rw [hunread]

/-- A payload that reads as JSON has no other numbers than integers of 64 bits. -/
def IntegralPayload : StoredMessage → Prop
  | .bankSend _ _ => True
  | .wasmExecute _ payload _ => ∀ v, payloadJson? payload = some v → v.Integral

theorem canonical_self {m c : StoredMessage} (hm : m.IntegralPayload) (h : m.canonical = .ok c) :
    c.canonical = .ok c := by
  cases m with
  | bankSend recipient amount =>
    obtain ⟨coins, hcoins, rfl⟩ := canonical_bankSend.1 h
    exact canonical_bankSend.2 ⟨coins, Coin.canonicalList_self hcoins, rfl⟩
  | wasmExecute contract payload funds =>
    obtain ⟨p, hp, coins, hcoins, rfl⟩ := canonical_wasmExecute.1 h
    exact canonical_wasmExecute.2
      ⟨p, canonicalPayload_self hp hm, coins, Coin.canonicalList_self hcoins, rfl⟩

end StoredMessage

namespace Message

def IntegralCall : Message → Prop
  | .send _ _ _ => True
  | .execute _ _ call _ => call.Integral

theorem canonical_normalize {candidate : Message} {m : StoredMessage}
    (hcandidate : candidate.IntegralCall) (h : candidate.normalize = .ok m) :
    m.canonical = .ok m := by
  cases candidate with
  | send sender recipient amount =>
    simp only [normalize, bind_eq_ok, pure, Except.pure, Except.ok.injEq] at h
    obtain ⟨coins, hcoins, rfl⟩ := h
    exact StoredMessage.canonical_bankSend.2 ⟨coins, Coin.canonicalList_self hcoins, rfl⟩
  | execute sender contract call coins =>
    simp only [normalize, bind_eq_ok, pure, Except.pure, Except.ok.injEq] at h
    obtain ⟨funds, hfunds, rfl⟩ := h
    exact StoredMessage.canonical_wasmExecute.2
      ⟨_, StoredMessage.canonicalPayload_encodeJson_self hcandidate, funds,
        Coin.canonicalList_self hfunds, rfl⟩

end Message

/-- Where all numbers are integers of 64 bits, the canonical form of a stored message and the stored form
of a local one are both their own canonical form. -/
theorem canonical_stable :
    (∀ m c : StoredMessage, m.IntegralPayload → m.canonical = .ok c → c.canonical = .ok c) ∧
      ∀ (candidate : Message) (m : StoredMessage), candidate.IntegralCall →
        candidate.normalize = .ok m → m.canonical = .ok m :=
  ⟨fun _ _ => StoredMessage.canonical_self, fun _ _ => Message.canonical_normalize⟩

theorem Receipt.nested_integral (n : ℕ) : (nested n).Integral := by
  induction n with
  | zero => exact .null
  | succ n ih => exact .list (List.forall_mem_singleton.2 ih)

open StoredMessage in
theorem canonical_stable_nested :
    let deep := Receipt.nested 128
    let stored := StoredMessage.wasmExecute "terra1feed" (encodeJson deep) []
    (Message.call "terra1multisig" "terra1feed" deep).normalize = .ok stored ∧
      payloadJson? (encodeJson deep) = none ∧ stored.canonical = .ok stored := by
  intro deep stored
  have hintegral : (Message.call "terra1multisig" "terra1feed" deep).IntegralCall :=
    Receipt.nested_integral 128
  have hnormalize : (Message.call "terra1multisig" "terra1feed" deep).normalize = .ok stored := rfl
  refine ⟨hnormalize, ?_, canonical_stable.2 _ stored hintegral hnormalize⟩
  have hreadable : deep.Readable 128 := Receipt.nested_readable_iff.2 le_rfl
  rw [payloadJson?_encodeJson, hreadable.sorted_eq]
  refine Json.parse?_write_eq_none hreadable fun h => ?_
  exact absurd (Receipt.nested_readable_iff.1 h) (by decide)

end Countersign
