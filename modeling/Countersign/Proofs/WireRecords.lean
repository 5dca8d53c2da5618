import Countersign.Oracle.Wire
import Countersign.Proofs.DryRun
import Mathlib

/-! Records that travel as JSON come back as they were sent. Numbers of any size travel as text, in
digits. -/

namespace Countersign

/-! ### Numbers of any size -/

namespace Text

theorem signed?_toDigits (n : ℕ) : signed? (Nat.toDigits 10 n) = some (n : ℤ) := by
  rw [signed?.eq_2 _ (toDigits_ne_cons rfl n), unsigned?_toDigits]
  rfl

theorem signed?_minus (n : ℕ) : signed? ('-' :: Nat.toDigits 10 n) = some (-(n : ℤ)) := by
  rw [signed?, magnitude?_toDigits]
  rfl

end Text

namespace Json

/-- A text with the digits of a number, behind a minus sign if and only if it is negative. No digit is
missing and no zero stands in front of others. -/
def DecimalOf (i : ℤ) (v : Json) : Prop :=
  ∃ digits : List Char, v = .text (String.ofList (if i < 0 then '-' :: digits else digits)) ∧
    digits ≠ [] ∧ (∀ c ∈ digits, c.isDigit = true) ∧ (digits.head? = some '0' → digits = ['0']) ∧
    Nat.ofDigitChars 10 digits 0 = i.natAbs

theorem readable_ofOption {α : Type} {write : α → Json} {depth : ℕ}
    (h : ∀ a, Readable depth (write a)) (a? : Option α) : Readable depth (.ofOption write a?) := by
  cases a? with
  | none => exact .null
  | some a => exact h a

theorem decimalOf_ofBig (i : ℤ) : DecimalOf i (.ofBig i) := by
  refine ⟨Nat.toDigits 10 i.natAbs, rfl, Nat.toDigits_ne_nil, Text.isDigit_toDigits i.natAbs, ?_,
    Nat.ofDigitChars_ten_toDigits⟩
  intro hzero
  obtain ⟨c, hc⟩ := List.length_eq_one_iff.1 (Text.length_toDigits_of_zero hzero)
  rw [hc] at hzero ⊢
  rw [Option.some.inj hzero]

end Json

namespace Record

variable {α : Type}

theorem written?_text {read : List Char → Option α} (cs : List Char) :
    written? read (Json.text (String.ofList cs)) = read cs := by
  change read (String.ofList cs).toList = read cs
  rw [String.toList_ofList]

theorem written?_signed (i : ℤ) : written? Text.signed? (Json.ofBig i) = some i := by
  rw [Json.ofBig, written?_text]
  split
  · next hneg =>
    rw [Text.signed?_minus]
    congr 1
    omega
  · next hpos =>
    rw [Text.signed?_toDigits]
    congr 1
    omega

theorem written?_unsigned (n : ℕ) : written? Text.unsigned? (Json.ofBig n) = some n := by
  have hpos : ¬ (n : ℤ) < 0 := by omega
  rw [Json.ofBig, written?_text, if_neg hpos, Int.natAbs_natCast, Text.unsigned?_toDigits]

/-! ### Fields -/

theorem fields?_ofEntries (names : List String) {fields : List (String × Json)}
    (hnodup : (fields.map Prod.fst).Nodup) : ∃ f, fields? names (.ofEntries fields) = some f ∧
      ∀ name ∈ names, f.values.lookup name = fields.lookup name := by
  have hkeys := (Entries.nodup_keys_ofList fields).filter (· ∈ names)
  obtain ⟨found, hfound⟩ := exists_known?.2 hkeys
  refine ⟨⟨true, found⟩, ?_, fun name hname => ?_⟩
  · change (known? names [] (Entries.ofList fields)).map (Fields.mk true) = some ⟨true, found⟩
    rw [hfound, Option.map_some]
  · have hsingle := List.nodup_iff_count_le_one.1 hnodup name
    exact (lookup_known? hfound hname).trans (Entries.lookup_ofList_of_single hsingle)

theorem nullable?_ofOption {read : Json → Option α} {write : α → Json}
    (hread : ∀ a, read (write a) = some a) (hnull : read .null = none) (a? : Option α) :
    nullable? read (.ofOption write a?) = some a? := by
  cases a? with
  | none => rfl
  | some a =>
    have hne : ∀ v : Json, read v = some a → nullable? read v = some (some a) := by
      intro v hv
      unfold nullable?
      cases v with
      | null =>
        rw [hnull] at hv
        cases hv
      | int i => by_cases hi : 0 ≤ i <;> simp [Source.shape, Json.shape, hi, hv]
      | _ => simp [Source.shape, Json.shape, hv]
    exact hne (write a) (hread a)

theorem required?_written {f : Fields Json} {name : String} {v : Json} {read : Json → Option α} {a : α}
    (h : f.values.lookup name = some v) (hread : read v = some a) :
    f.required? name read = some a := by
  rw [Fields.required?_eq, h, Option.elim_some, hread]

theorem optional?_written {f : Fields Json} {name : String} {write : α → Json}
    {read : Json → Option α} {a? : Option α} (h : f.values.lookup name = some (.ofOption write a?))
    (hread : ∀ a, read (write a) = some a) (hnull : read .null = none) :
    f.optional? name read = some a? := by
  unfold Fields.optional?
  rw [h]
  exact nullable?_ofOption hread hnull a?

end Record

/-! ### Rounds and transmissions -/

namespace Round

theorem read?_toJson (r : Round) : read? r.toJson = some r := by
  change (Record.written? Text.signed? (Json.ofBig r.answer)).bind (fun answer =>
    (Record.word32? (Json.ofNat r.round.toNat)).bind fun round =>
      (Record.word32? (Json.ofNat r.epoch.toNat)).bind fun epoch =>
        some (mk answer round epoch)) = _
  rw [Record.written?_signed, Record.word32?_ofNat, Record.word32?_ofNat]
  rfl

theorem readable (r : Round) (depth : ℕ) : r.toJson.Readable (depth + 1) := by
  have hwords : ∀ n : UInt32, (Json.ofNat n.toNat).Readable depth := fun n => Json.readable_word n
  exact .ofEntries (by simpa using ⟨.text _, hwords r.round, hwords r.epoch⟩)

end Round

namespace Transmission

def entries (t : Transmission) : List (String × Json) := [
  ("contract_address", .ofOption .text t.contract),
  ("aggregator_round_id", .ofOption (.ofNat ·.toNat) t.aggregatorRoundId),
  ("answer", .ofBig t.answer),
  ("round", .ofNat t.round.toNat),
  ("epoch", .ofNat t.epoch.toNat),
  ("transmitter", .ofOption .text t.transmitter),
  ("config_digest", .ofOption .text t.configDigest),
  ("observations_timestamp", .ofOption (.ofNat ·.toNat) t.observationsTimestamp),
  ("observers", .ofOption .text t.observers),
  ("observations", .list (t.observations.map .ofBig)),
  ("juels_per_fee_coin", .ofOption (.ofBig ∘ Int.ofNat) t.juelsPerFeeCoin),
  ("reimbursement", .ofOption (.ofBig ∘ Int.ofNat) t.reimbursement)]

theorem nodup_keys (t : Transmission) : (t.entries.map Prod.fst).Nodup := by
  have hkeys : t.entries.map Prod.fst = fieldNames := rfl
  rw [hkeys]
  decide

theorem readable_entries (t : Transmission) (depth : ℕ) :
    ∀ e ∈ t.entries, e.2.Readable (depth + 1) := by
  have htext : ∀ s? : Option String, (Json.ofOption .text s?).Readable (depth + 1) :=
    Json.readable_ofOption .text
  have hfee : ∀ n? : Option ℕ, (Json.ofOption (.ofBig ∘ Int.ofNat) n?).Readable (depth + 1) :=
    Json.readable_ofOption fun _ => .text _
  have hid : (Json.ofOption (.ofNat ·.toNat) t.aggregatorRoundId).Readable (depth + 1) :=
    Json.readable_ofOption (fun n => Json.readable_word n) _
  have htime : (Json.ofOption (.ofNat ·.toNat) t.observationsTimestamp).Readable (depth + 1) :=
    Json.readable_ofOption (fun n => Json.readable_ofNat n.toNat_lt) _
  have hobservations : (Json.list (t.observations.map .ofBig)).Readable (depth + 1) := by
    refine .list fun v hv => ?_
    obtain ⟨i, -, rfl⟩ := List.mem_map.1 hv
    exact .text _
  simp only [entries, List.forall_mem_cons, List.not_mem_nil, false_imp_iff, implies_true, and_true]
  exact ⟨htext t.contract, hid, .text _, Json.readable_word t.round, Json.readable_word t.epoch,
    htext t.transmitter, htext t.configDigest, htime, htext t.observers, hobservations,
    hfee t.juelsPerFeeCoin, hfee t.reimbursement⟩

theorem toJson_eq (t : Transmission) : t.toJson = .ofEntries t.entries := by
  have hentries : t.entries.map (fun e => (e.1, e.2.sorted)) = t.entries := by
    rw [List.map_congr_left fun e he => by rw [(t.readable_entries 0 e he).sorted_eq], List.map_id']
  rw [toJson, show t.toOrderedJson = .object t.entries from rfl, Json.sorted,
    Json.sortedEntries_eq_map, hentries, Json.ofEntries]

theorem readable (t : Transmission) (depth : ℕ) : t.toJson.Readable (depth + 2) := by
  rw [toJson_eq]
  exact .ofEntries (t.readable_entries depth)

theorem get?_toJson (t : Transmission) (name : String) :
    t.toJson.get? name = t.entries.lookup name := by
  rw [toJson_eq]
  exact Entries.lookup_ofList_of_single (List.nodup_iff_count_le_one.1 t.nodup_keys name)

theorem read?_toJson (t : Transmission) : read? t.toJson = some t := by
  obtain ⟨f, hf, hlookup⟩ := Record.fields?_ofEntries fieldNames t.nodup_keys
  have hcontract : f.optional? "contract_address" Record.text? = some t.contract :=
    Record.optional?_written (hlookup _ (by decide)) (fun _ => rfl) rfl
  have hid : f.optional? "aggregator_round_id" Record.word32? = some t.aggregatorRoundId :=
    Record.optional?_written (hlookup _ (by decide)) Record.word32?_ofNat rfl
  have hanswer : f.required? "answer" (Record.written? Text.signed?) = some t.answer :=
    Record.required?_written (hlookup _ (by decide)) (Record.written?_signed t.answer)
  have hround : f.required? "round" Record.word32? = some t.round :=
    Record.required?_written (hlookup _ (by decide)) (Record.word32?_ofNat t.round)
  have hepoch : f.required? "epoch" Record.word32? = some t.epoch :=
    Record.required?_written (hlookup _ (by decide)) (Record.word32?_ofNat t.epoch)
  have htransmitter : f.optional? "transmitter" Record.text? = some t.transmitter :=
    Record.optional?_written (hlookup _ (by decide)) (fun _ => rfl) rfl
  have hdigest : f.optional? "config_digest" Record.text? = some t.configDigest :=
    Record.optional?_written (hlookup _ (by decide)) (fun _ => rfl) rfl
  have htime : f.optional? "observations_timestamp" Record.word64? = some t.observationsTimestamp :=
    Record.optional?_written (hlookup _ (by decide)) Record.word64?_ofNat rfl
  have hobservers : f.optional? "observers" Record.text? = some t.observers :=
    Record.optional?_written (hlookup _ (by decide)) (fun _ => rfl) rfl
  have hobservations : f.required? "observations" (Record.list? (Record.written? Text.signed?)) =
      some t.observations :=
    Record.required?_written (hlookup _ (by decide))
      (Record.list?_map t.observations Record.written?_signed)
  have hjuels : f.required? "juels_per_fee_coin"
      (Record.nullable? (Record.written? Text.unsigned?)) = some t.juelsPerFeeCoin :=
    Record.required?_written (hlookup _ (by decide))
      (Record.nullable?_ofOption Record.written?_unsigned rfl t.juelsPerFeeCoin)
  have hpaid : f.required? "reimbursement"
      (Record.nullable? (Record.written? Text.unsigned?)) = some t.reimbursement :=
    Record.required?_written (hlookup _ (by decide))
      (Record.nullable?_ofOption Record.written?_unsigned rfl t.reimbursement)
  rw [read?, toJson_eq, hf, Option.bind_eq_bind, Option.bind_some, hcontract, hid, hanswer, hround,
    hepoch, htransmitter, hdigest, htime, hobservers, hobservations, hjuels, hpaid]
  rfl

structure WritesDecimals (t : Transmission) : Prop where
  answer : ∃ v, t.toJson.get? "answer" = some v ∧ v.DecimalOf t.answer
  observations : ∃ vs, t.toJson.get? "observations" = some (.list vs) ∧
    List.Forall₂ Json.DecimalOf t.observations vs
  fees : ∀ fee ∈ [("juels_per_fee_coin", t.juelsPerFeeCoin), ("reimbursement", t.reimbursement)],
    ∃ v, t.toJson.get? fee.1 = some v ∧ fee.2.elim (v = .null) fun n => v.DecimalOf n

theorem writesDecimals (t : Transmission) : t.WritesDecimals := by
  have hfee : ∀ n? : Option ℕ, n?.elim (Json.ofOption (.ofBig ∘ Int.ofNat) n? = .null)
      fun n => (Json.ofOption (.ofBig ∘ Int.ofNat) n?).DecimalOf n := by
    rintro (_ | n)
    exacts [rfl, Json.decimalOf_ofBig n]
  refine ⟨⟨.ofBig t.answer, t.get?_toJson "answer", Json.decimalOf_ofBig t.answer⟩,
    ⟨t.observations.map .ofBig, t.get?_toJson "observations", ?_⟩, ?_⟩
  · rw [List.forall₂_map_right_iff, List.forall₂_same]
    exact fun i _ => Json.decimalOf_ofBig i
  · simp only [List.forall_mem_cons, List.not_mem_nil, false_imp_iff, implies_true, and_true]
    exact ⟨⟨_, t.get?_toJson "juels_per_fee_coin", hfee t.juelsPerFeeCoin⟩,
      ⟨_, t.get?_toJson "reimbursement", hfee t.reimbursement⟩⟩

end Transmission

/-! ### Messages -/

theorem Message.read?_toJson (m : Message) : read? m.toJson = some m := by
  cases m with
  | send sender recipient amount =>
    change (Record.list? Coin.read? (.list (amount.map Coin.toJson))).bind
      (fun amount => some (send sender recipient amount)) = _
    rw [Record.list?_map amount Coin.read?_toJson, Option.bind_some]
  | execute sender contract call coins =>
    change (Record.list? Coin.read? (.list (coins.map Coin.toJson))).bind
      (fun coins => some (execute sender contract call coins)) = _
    rw [Record.list?_map coins Coin.read?_toJson, Option.bind_some]

/-! ### All records -/

/-- Whatever is written is read back, from the value and from its text. -/
structure RoundTrips {α : Type} (read? : Json → Option α) (toJson : α → Json) : Prop where
  value : ∀ a, read? (toJson a) = some a
  text : ∀ a, Json.parse? (toJson a).write = some (toJson a)

/-- All records that travel are read back as they were, with every number in full: from the value that
is written and from its text. For a message that holds its call as a value this is said of the value
only, since the text of a call that nests too deeply is not read at all. -/
theorem wire_roundTrips :
    RoundTrips Round.read? Round.toJson ∧
    RoundTrips Transmission.read? Transmission.toJson ∧
    RoundTrips TxResult.read? TxResult.toJson ∧
    RoundTrips StoredMessage.read? StoredMessage.toJson ∧
    RoundTrips MultisigCall.read? MultisigCall.toJson ∧
    (∀ m : Message, Message.read? m.toJson = some m) ∧
    (∀ r : Round, ∃ v, r.toJson.get? "answer" = some v ∧ v.DecimalOf r.answer) ∧
    ∀ t : Transmission, t.WritesDecimals := by
  refine ⟨⟨Round.read?_toJson, fun r => ?_⟩, ⟨Transmission.read?_toJson, fun t => ?_⟩,
    ⟨TxResult.read?_toJson, fun r => ?_⟩, ⟨StoredMessage.read?_toJson, fun m => ?_⟩,
    ⟨MultisigCall.read?_toJson, fun call => ?_⟩, Message.read?_toJson, fun r => ?_,
    Transmission.writesDecimals⟩
  · exact Json.parse?_write (r.readable 126)
  · exact Json.parse?_write (t.readable 125)
  · exact Json.parse?_write (r.readable 122)
  · exact Json.parse?_write (m.readable 122)
  · exact Json.parse?_write (call.readable 119)
  · exact ⟨.ofBig r.answer, rfl, Json.decimalOf_ofBig r.answer⟩

end Countersign
