import Countersign.Proofs.TypedLogs
import Mathlib

/-! What a stored message loses when it is read. Entries that the record does not name are ignored, and a
coin may be a list of its fields. A message without either is written back as it was, up to the order of
its keys. -/

namespace Countersign

theorem lookup_of_mem {α : Type} {entries : List (String × α)} {e : String × α} (he : e ∈ entries)
    (hnodup : (entries.map Prod.fst).Nodup) : entries.lookup e.1 = some e.2 := by
  induction entries with
  | nil => cases he
  | cons d rest ih =>
    obtain ⟨hnew, hrest⟩ := List.nodup_cons.1 hnodup
    rcases List.mem_cons.1 he with rfl | he
    · exact List.lookup_cons_self
    · have hne : (e.1 == d.1) = false := by
        rw [beq_eq_false_iff_ne]
        exact fun heq => hnew (heq ▸ List.mem_map_of_mem he)
      rw [← ih he hrest, ← Prod.mk.eta (p := d), List.lookup_cons, hne]

theorem perm_of_keys {α : Type} {entries : List (String × α)} {keys : List String} (default : α)
    (hkeys : (entries.map Prod.fst).Perm keys) (hnodup : keys.Nodup) :
    entries.Perm (keys.map fun key => (key, (entries.lookup key).getD default)) := by
  have hself : (entries.map Prod.fst).map (fun key => (key, (entries.lookup key).getD default)) =
      entries := by
    rw [List.map_map]
    refine (List.map_congr_left fun e he => ?_).trans entries.map_id
    rw [Function.comp_apply, lookup_of_mem he (hkeys.nodup_iff.2 hnodup), Option.getD_some, id]
  have hmoved := hkeys.map fun key => (key, (entries.lookup key).getD default)
  rwa [hself] at hmoved

namespace Json

variable {entries entries' : List (String × Json)}

def only (names : List String) : Json → Bool
  | .object entries => entries.all (·.1 ∈ names)
  | _ => false

theorem reordered_list_iff {items items' : List Json} :
    Reordered (.list items) (.list items') ↔ List.Forall₂ Reordered items items' := by
  rw [List.forall₂_iff_zip]
  constructor
  · intro h
    cases h with | list hlen h => exact ⟨hlen, fun hp => h _ hp⟩
  · rintro ⟨hlen, h⟩
    exact .list hlen fun p hp => h hp

theorem reordered_object_iff (hnodup : (entries'.map Prod.fst).Nodup) :
    Reordered (.object entries) (.object entries') ↔
      (entries.map Prod.fst).Perm (entries'.map Prod.fst) ∧
        ∀ e ∈ entries', ∃ v, entries.lookup e.1 = some v ∧ v.Reordered e.2 := by
  constructor
  · intro h
    cases h with | @object _ reordered _ hperm hkeys h =>
    have hkeysPerm : (entries.map Prod.fst).Perm (entries'.map Prod.fst) :=
      hkeys ▸ hperm.map Prod.fst
    refine ⟨hkeysPerm, fun e he => ?_⟩
    have hlen : entries'.length = reordered.length := by
      simpa using congrArg List.length hkeys.symm
    obtain ⟨i, hi, rfl⟩ := List.mem_iff_getElem.1 he
    have hzip : (reordered[i], entries'[i]) ∈ reordered.zip entries' :=
      List.mem_iff_getElem.2 ⟨i, by simp; omega, by simp⟩
    have hmem : reordered[i] ∈ entries := hperm.mem_iff.2 (List.getElem_mem _)
    have hkey : reordered[i].1 = entries'[i].1 := zip_key hkeys hzip
    exact ⟨_, hkey ▸ lookup_of_mem hmem (hkeysPerm.nodup_iff.2 hnodup), h _ hzip⟩
  · rintro ⟨hkeys, h⟩
    refine .object (perm_of_keys .null hkeys hnodup) (by simp) fun p hp => ?_
    rw [List.map_map, List.zip_map_left] at hp
    obtain ⟨q, hq, rfl⟩ := List.mem_map.1 hp
    obtain ⟨heq, hmem⟩ := zip_self hq
    obtain ⟨v, hv, hreordered⟩ := h q.1 hmem
    simp only [Prod.map, Function.comp_apply, id, hv, Option.getD_some, ← heq]
    exact hreordered

theorem reordered_single {key : String} {v w : Json} :
    Reordered (.object [(key, v)]) (.ofEntries [(key, w)]) ↔ v.Reordered w := by
  change Reordered (.object [(key, v)]) (.object [(key, w)]) ↔ _
  rw [reordered_object_iff (by simp)]
  simp

end Json

namespace Record

variable {names : List String} {v : Json} {f : Fields Json}

theorem required?_text {name s : String} (h : f.required? name text? = some s) :
    f.values.lookup name = some (.text s) := by
  obtain ⟨v, hv, hs⟩ := Option.bind_eq_some_iff.1 h
  exact Record.text?_eq_some.1 hs ▸ hv

theorem reordered_ofEntries_iff {fields : List (String × Json)} (h : fields? names v = some f)
    (hnames : fields.map Prod.fst = names) (hnodup : names.Nodup) :
    v.Reordered (.ofEntries fields) ↔ v.only names ∧
      ∀ e ∈ fields, ∃ w, f.values.lookup e.1 = some w ∧ w.Reordered e.2 := by
  cases v with
  | object entries =>
    obtain ⟨found, hfound, rfl⟩ := Option.map_eq_some_iff.1 h
    have hperm : (Entries.ofList fields).Perm fields := Entries.ofList_perm (hnames ▸ hnodup)
    have hlookup : ∀ e ∈ fields, found.lookup e.1 = entries.lookup e.1 := fun e he =>
      lookup_known? hfound (hnames ▸ List.mem_map_of_mem he)
    rw [Json.ofEntries, Json.reordered_object_iff (Entries.nodup_keys_ofList fields),
      (hperm.map Prod.fst).congr_right, hnames, Json.only]
    simp only [hperm.mem_iff, List.all_eq_true, decide_eq_true_eq]
    constructor
    · rintro ⟨hkeys, hall⟩
      refine ⟨fun e he => hkeys.mem_iff.1 (List.mem_map_of_mem he), fun e he => ?_⟩
      rw [hlookup e he]
      exact hall e he
    · rintro ⟨honly, hall⟩
      have hall' : ∀ e ∈ fields, ∃ w, entries.lookup e.1 = some w ∧ w.Reordered e.2 :=
        fun e he => hlookup e he ▸ hall e he
      have hkept : (entries.map Prod.fst).filter (· ∈ names) = entries.map Prod.fst := by
        simpa [List.filter_eq_self] using fun a b hab => honly (a, b) hab
      have hdistinct : (entries.map Prod.fst).Nodup := hkept ▸ exists_known?.1 ⟨found, hfound⟩
      refine ⟨(List.perm_ext_iff_of_nodup hdistinct hnodup).2 fun key => ?_, hall'⟩
      constructor
      · intro hkey
        obtain ⟨e, he, rfl⟩ := List.mem_map.1 hkey
        exact honly e he
      · intro hkey
        rw [← hnames] at hkey
        obtain ⟨e, he, rfl⟩ := List.mem_map.1 hkey
        obtain ⟨w, hw, -⟩ := hall' e he
        exact List.mem_map.2 ⟨(e.1, w), mem_of_lookup hw, rfl⟩
  | _ =>
    refine iff_of_false (fun h => ?_) (by simp [Json.only])
    cases h

end Record

namespace Coin

theorem reordered_toJson_iff {v : Json} {c : Coin} (h : read? v = some c) :
    v.Reordered c.toJson ↔ v.only ["denom", "amount"] := by
  obtain ⟨f, hf, h⟩ := Option.bind_eq_some_iff.1 h
  obtain ⟨denom, hdenom, h⟩ := Option.bind_eq_some_iff.1 h
  obtain ⟨amount, hamount, h⟩ := Option.bind_eq_some_iff.1 h
  obtain rfl := Option.some.inj h
  rw [toJson, Record.reordered_ofEntries_iff hf rfl (by decide), and_iff_left]
  simp only [List.forall_mem_cons, List.not_mem_nil, false_imp_iff, implies_true, and_true]
  exact ⟨⟨_, Record.required?_text hdenom, .text _⟩, ⟨_, Record.required?_text hamount, .text _⟩⟩

def bareList (v : Json) : Bool :=
  (Record.items v).all (·.only ["denom", "amount"])

theorem reordered_list_iff {v : Json} {coins : List Coin} (h : Record.list? read? v = some coins) :
    v.Reordered (.list (coins.map toJson)) ↔ bareList v := by
  obtain ⟨items, rfl, hitems⟩ := Record.list?_eq_some.1 h
  change _ ↔ items.all (·.only ["denom", "amount"])
  rw [Json.reordered_list_iff, List.forall₂_map_right_iff]
  have hall := mapM_eq_some_iff.1 hitems
  clear h hitems
  induction hall with
  | nil => simp
  | cons hc _ ih =>
    rw [List.forall₂_cons, reordered_toJson_iff hc, List.all_cons, Bool.and_eq_true]
    exact and_congr_right fun _ => ih

end Coin

namespace Record

variable {names : List String} {v : Json}

theorem variant?_eq_some {name : String} {content : Json} :
    variant? v = some (name, some content) ↔ v = .object [(name, content)] := by
  constructor
  · intro h
    cases v with
    | object entries =>
      match entries with
      | [(key, inner)] =>
        cases h
        rfl
    | int i => by_cases hi : 0 ≤ i <;> simp [variant?, Source.shape, Json.shape, hi] at h
    | _ => cases h
  · rintro rfl
    rfl

theorem fields?_of_content? {f : Fields Json} (h : content? names (some v) = some f) :
    fields? names v = some f := by
  cases v with
  | object entries => exact h
  | int i => by_cases hi : 0 ≤ i <;> simp [content?, Source.shape, Json.shape, hi] at h
  | _ => cases h

end Record

namespace StoredMessage

/-- The message names nothing that is not read, and neither do its coins. -/
def bare : Json → Bool
  | .object [("bank", .object [("send", content)])] =>
    content.only ["to_address", "amount"] && (content.get? "amount").any Coin.bareList
  | .object [("wasm", .object [("execute", content)])] =>
    content.only ["contract_addr", "msg", "funds"] && (content.get? "funds").any Coin.bareList
  | _ => false

theorem read?_cases {v : Json} {m : StoredMessage} (h : read? v = some m) :
    (∃ content f recipient amount, v = .object [("bank", .object [("send", content)])] ∧
      m = .bankSend recipient amount ∧
      Record.fields? ["to_address", "amount"] content = some f ∧
      f.required? "to_address" Record.text? = some recipient ∧
      f.required? "amount" (Record.list? Coin.read?) = some amount) ∨
    ∃ content f contract payload funds, v = .object [("wasm", .object [("execute", content)])] ∧
      m = .wasmExecute contract payload funds ∧
      Record.fields? ["contract_addr", "msg", "funds"] content = some f ∧
      f.required? "contract_addr" Record.text? = some contract ∧
      f.required? "msg" Record.text? = some payload ∧
      f.required? "funds" (Record.list? Coin.read?) = some funds := by
  obtain ⟨⟨module, outer?⟩, houter, hcontent⟩ := Option.bind_eq_some_iff.1 h
  obtain ⟨outer, rfl, hvariant⟩ := Option.bind_eq_some_iff.1 hcontent
  obtain ⟨⟨name, inner?⟩, hinner, hfields⟩ := Option.bind_eq_some_iff.1 hvariant
  clear h hcontent hvariant
  obtain rfl := Record.variant?_eq_some.1 houter
  dsimp only at hfields
  split at hfields
  · obtain ⟨f, hf, hrest⟩ := Option.bind_eq_some_iff.1 hfields
    obtain ⟨content, rfl, -⟩ := Option.bind_eq_some_iff.1 hf
    obtain ⟨recipient, hrecipient, hrest⟩ := Option.bind_eq_some_iff.1 hrest
    obtain ⟨amount, hamount, hm⟩ := Option.bind_eq_some_iff.1 hrest
    obtain rfl := Record.variant?_eq_some.1 hinner
    exact .inl ⟨content, f, recipient, amount, rfl, (Option.some.inj hm).symm,
      Record.fields?_of_content? hf, hrecipient, hamount⟩
  · obtain ⟨f, hf, hrest⟩ := Option.bind_eq_some_iff.1 hfields
    obtain ⟨content, rfl, -⟩ := Option.bind_eq_some_iff.1 hf
    obtain ⟨contract, hcontract, hrest⟩ := Option.bind_eq_some_iff.1 hrest
    obtain ⟨payload, hpayload, hrest⟩ := Option.bind_eq_some_iff.1 hrest
    obtain ⟨funds, hfunds, hm⟩ := Option.bind_eq_some_iff.1 hrest
    obtain rfl := Record.variant?_eq_some.1 hinner
    exact .inr ⟨content, f, contract, payload, funds, rfl, (Option.some.inj hm).symm,
      Record.fields?_of_content? hf, hcontract, hpayload, hfunds⟩
  · cases hfields

theorem reordered_content_iff {content : Json} {f : Record.Fields Json} {names : List String}
    {coinsName : String} {coins : List Coin} (texts : List (String × String))
    (hf : Record.fields? names content = some f)
    (hnames : texts.map Prod.fst ++ [coinsName] = names) (hnodup : names.Nodup)
    (htexts : ∀ t ∈ texts, f.required? t.1 Record.text? = some t.2)
    (hcoins : f.required? coinsName (Record.list? Coin.read?) = some coins) :
    content.Reordered (.ofEntries (texts.map (fun t => (t.1, .text t.2)) ++
        [(coinsName, .list (coins.map Coin.toJson))])) ↔
      content.only names && (content.get? coinsName).any Coin.bareList := by
  rw [Record.reordered_ofEntries_iff hf (by simpa [Function.comp_def] using hnames) hnodup,
    Bool.and_eq_true]
  refine and_congr_right fun honly => ?_
  obtain ⟨v, hv, hread⟩ := Option.bind_eq_some_iff.1 hcoins
  have hget : content.get? coinsName = some v := by
    cases content with
    | object entries =>
      rw [← hv, Record.lookup_fields? hf (by simp [← hnames])]
      rfl
    | _ => cases honly
  rw [hget, Option.any_some, ← Coin.reordered_list_iff hread]
  constructor
  · intro h
    obtain ⟨w, hw, hcoins⟩ := h (coinsName, .list (coins.map Coin.toJson)) (by simp)
    exact Option.some.inj (hv.symm.trans hw) ▸ hcoins
  · intro h e he
    rcases List.mem_append.1 he with he | he
    · obtain ⟨t, ht, rfl⟩ := List.mem_map.1 he
      exact ⟨_, Record.required?_text (htexts t ht), .text _⟩
    · obtain rfl := List.mem_singleton.1 he
      exact ⟨v, hv, h⟩

theorem reordered_toJson_iff {v : Json} {m : StoredMessage} (h : read? v = some m) :
    v.Reordered m.toJson ↔ bare v := by
  rcases read?_cases h with ⟨content, f, recipient, amount, rfl, rfl, hf, hrecipient, hamount⟩ |
    ⟨content, f, contract, payload, funds, rfl, rfl, hf, hcontract, hpayload, hfunds⟩
  · rw [toJson, Json.reordered_single, Json.reordered_single]
    exact reordered_content_iff [("to_address", recipient)] hf rfl (by decide)
      (by simpa using hrecipient) hamount
  · rw [toJson, Json.reordered_single, Json.reordered_single]
    exact reordered_content_iff [("contract_addr", contract), ("msg", payload)] hf rfl
      (by decide) (by simpa using ⟨hcontract, hpayload⟩) hfunds

/-- A message is written back as it was stored exactly when it is bare. -/
theorem written_back_iff {v : Json} {m : StoredMessage} (h : ofJson v = .ok m) :
    v.Reordered m.toJson ↔ bare v := by
  rw [ofJson] at h
  split at h
  · next hread => exact Except.ok.inj h ▸ reordered_toJson_iff hread
  · cases h

def shuffledCall : Json :=
  .object [("wasm", .object [("execute", .object [
    ("msg", .text "e30="),
    ("funds", .list [.object [("denom", .text "uluna"), ("amount", .text "5")]]),
    ("contract_addr", .text "terra1feed")])])]

theorem written_back_shuffled :
    let m : StoredMessage := .wasmExecute "terra1feed" "e30=" [⟨"uluna", "5"⟩]
    ofJson shuffledCall = .ok m ∧ shuffledCall.Reordered m.toJson :=
  ⟨rfl, (written_back_iff rfl).2 rfl⟩

def sendWithMemo : Json :=
  .object [("bank", .object [("send", .object [
    ("to_address", .text "terra1alice"), ("amount", .list []), ("memo", .text "x")])])]

def sendWithListedCoin : Json :=
  .object [("bank", .object [("send", .object [
    ("to_address", .text "terra1alice"),
    ("amount", .list [.list [.text "uluna", .text "5"]])])])]

/-- Neither the memo nor the shape of the coin is seen by a comparison. -/
theorem fields_lost :
    (∃ m, ofJson sendWithMemo = .ok m ∧ ¬ sendWithMemo.Reordered m.toJson) ∧
      ∃ m, ofJson sendWithListedCoin = .ok m ∧ ¬ sendWithListedCoin.Reordered m.toJson := by
  have hmemo : bare sendWithMemo = false := by decide
  have hlisted : bare sendWithListedCoin = false := by decide
  refine ⟨⟨.bankSend "terra1alice" [], rfl, fun h => ?_⟩,
    ⟨.bankSend "terra1alice" [⟨"uluna", "5"⟩], rfl, fun h => ?_⟩⟩
  · cases hmemo.symm.trans ((reordered_toJson_iff rfl).1 h)
  · cases hlisted.symm.trans ((reordered_toJson_iff rfl).1 h)

end StoredMessage
end Countersign
