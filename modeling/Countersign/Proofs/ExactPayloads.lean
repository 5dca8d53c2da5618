import Countersign.Proofs.Comparison
import Countersign.Proofs.LostNumbers
import Mathlib

/-!
Payloads compared as the documents they are written as. The comparison reads numbers, so it tells
literals apart as far as the numbers they are read as.
-/

namespace Countersign

namespace Document

/-! ### Literals as written -/

theorem unsignedNumber?_written {negative : Bool} {cs rest : List Char} {n : Literal}
    (h : unsignedNumber? negative cs = some (n, rest)) : n.Written := by
  rw [unsignedNumber?] at h
  simp only [Option.bind_eq_bind] at h
  obtain ⟨⟨whole, afterWhole⟩, -, h⟩ := Option.bind_eq_some_iff.1 h
  dsimp only at h
  split at h
  · cases h
  · obtain ⟨⟨fraction, afterFraction⟩, -, h⟩ := Option.bind_eq_some_iff.1 h
    obtain ⟨⟨power, afterPower⟩, -, h⟩ := Option.bind_eq_some_iff.1 h
    obtain ⟨rfl, -⟩ := Prod.mk.inj (Option.some.inj h)
    intro hplain
    simp only [Bool.and_eq_true, List.isEmpty_iff, Option.isNone_iff_eq_none] at hplain
    simp [hplain.1, hplain.2]

theorem number?_written {cs rest : List Char} {n : Literal} (h : number? cs = some (n, rest)) :
    n.Written := by
  rw [number?.eq_def] at h
  split at h
  · exact unsignedNumber?_written h
  · exact unsignedNumber?_written h

variable {P : Document → Prop} {read : List Char → Option (Document × List Char)}

theorem items?_all (hread : ∀ cs d rest, read cs = some (d, rest) → P d) {n : ℕ}
    {cs rest : List Char} {ds : List Document} (h : items? read n cs = some (ds, rest)) : ∀ d ∈ ds, P d := by
  induction n generalizing cs rest ds with
  | zero => cases h
  | succ n ih =>
    rw [items?] at h
    obtain ⟨⟨d, after⟩, hd, h⟩ := Option.bind_eq_some_iff.1 h
    dsimp only at h
    split at h
    · next cs' _ =>
      obtain ⟨⟨ds', after'⟩, hds, h⟩ := Option.bind_eq_some_iff.1 h
      obtain ⟨rfl, -⟩ := Prod.mk.inj (Option.some.inj h)
      exact List.forall_mem_cons.2 ⟨hread _ _ _ hd, ih hds⟩
    · obtain ⟨rfl, -⟩ := Prod.mk.inj (Option.some.inj h)
      simpa using hread _ _ _ hd
    · cases h

theorem entries?_all (hread : ∀ cs d rest, read cs = some (d, rest) → P d) {n : ℕ}
    {cs rest : List Char} {es : List (Option String × Document)}
    (h : entries? read n cs = some (es, rest)) : ∀ e ∈ es, P e.2 := by
  induction n generalizing cs rest es with
  | zero => cases h
  | succ n ih =>
    rw [entries?] at h
    obtain ⟨⟨e, after⟩, he, h⟩ := Option.bind_eq_some_iff.1 h
    have hvalue : P e.2 := by
      unfold entry? at he
      split at he
      · obtain ⟨⟨key, afterKey⟩, -, he⟩ := Option.bind_eq_some_iff.1 he
        dsimp only at he
        split at he
        · obtain ⟨⟨v, afterValue⟩, hv, he⟩ := Option.bind_eq_some_iff.1 he
          obtain ⟨rfl, -⟩ := Prod.mk.inj (Option.some.inj he)
          exact hread _ _ _ hv
        · cases he
      · cases he
    dsimp only at h
    split at h
    · next cs' _ =>
      obtain ⟨⟨es', after'⟩, hes, h⟩ := Option.bind_eq_some_iff.1 h
      obtain ⟨rfl, -⟩ := Prod.mk.inj (Option.some.inj h)
      exact List.forall_mem_cons.2 ⟨hvalue, ih hes⟩
    · obtain ⟨rfl, -⟩ := Prod.mk.inj (Option.some.inj h)
      simpa using hvalue
    · cases h

theorem value?_written {depth : ℕ} {cs rest : List Char} {d : Document}
    (h : value? depth cs = some (d, rest)) : d.Each Literal.Written := by
  induction depth generalizing cs d rest with
  | zero => cases h
  | succ depth ih =>
    rw [value?.eq_def] at h
    split at h
    · cases h
    · obtain ⟨rfl, -⟩ := Prod.mk.inj (Option.some.inj h)
      exact .null
    · obtain ⟨rfl, -⟩ := Prod.mk.inj (Option.some.inj h)
      exact .bool true
    · obtain ⟨rfl, -⟩ := Prod.mk.inj (Option.some.inj h)
      exact .bool false
    · obtain ⟨⟨s, _⟩, -, h⟩ := Option.map_eq_some_iff.1 h
      obtain ⟨rfl, -⟩ := Prod.mk.inj h
      exact .text s
    · next heq =>
      obtain rfl := Nat.succ.inj heq
      split at h
      · obtain ⟨rfl, -⟩ := Prod.mk.inj (Option.some.inj h)
        exact .list (by simp)
      · obtain ⟨⟨ds, _⟩, hds, h⟩ := Option.map_eq_some_iff.1 h
        obtain ⟨rfl, -⟩ := Prod.mk.inj h
        exact .list (items?_all (fun _ _ _ => ih) hds)
    · next heq =>
      obtain rfl := Nat.succ.inj heq
      split at h
      · obtain ⟨rfl, -⟩ := Prod.mk.inj (Option.some.inj h)
        exact .object (by simp)
      · obtain ⟨⟨es, _⟩, hes, h⟩ := Option.map_eq_some_iff.1 h
        obtain ⟨rfl, -⟩ := Prod.mk.inj h
        exact .object (entries?_all (fun _ _ _ => ih) hes)
    · obtain ⟨⟨n, _⟩, hn, h⟩ := Option.map_eq_some_iff.1 h
      obtain ⟨rfl, -⟩ := Prod.mk.inj h
      exact .number (number?_written hn)

theorem parse?_written {s : String} {d : Document} (h : parse? s = some d) :
    d.Each Literal.Written := by
  rw [parse?, ofChars?] at h
  obtain ⟨⟨v, rest⟩, hv, h⟩ := Option.bind_eq_some_iff.1 h
  dsimp only at h
  split at h
  · obtain rfl := Option.some.inj h
    exact value?_written hv
  · cases h

end Document

namespace StoredMessage

def payloadDocument? (payload : String) : Option Document :=
  ((payloadBytes? payload).bind Base64.toText?).bind Document.parse?

def Read (d : Document) : Prop :=
  (d.toJson? Document.greatestDepth).isSome

theorem payloadJson?_eq (payload : String) :
    payloadJson? payload
      = (payloadDocument? payload).bind (Document.toJson? Document.greatestDepth) := by
  rw [payloadJson?, payloadDocument?]
  cases (payloadBytes? payload).bind Base64.toText? <;> rfl

theorem payloadDocument?_written {payload : String} {d : Document}
    (h : payloadDocument? payload = some d) : d.Each Literal.Written := by
  obtain ⟨s, -, hs⟩ := Option.bind_eq_some_iff.1 h
  exact Document.parse?_written hs

variable {contract contract' payload payload' : String} {funds funds' : List Coin} {d d' : Document}

theorem samePayload_iff (hd : payloadDocument? payload = some d)
    (hd' : payloadDocument? payload' = some d') (hkeys : d.DistinctKeys)
    (hkeys' : d'.DistinctKeys) :
    SamePayload payload payload' ↔ Read d ∧ Read d' ∧ d.Alike Literal.ReadAlike d' ∨
      ¬ Read d ∧ ¬ Read d' ∧ payloadBytes? payload = payloadBytes? payload' := by
  have hread := payloadJson?_eq payload
  have hread' := payloadJson?_eq payload'
  rw [hd, Option.bind_some] at hread
  rw [hd', Option.bind_some] at hread'
  unfold SamePayload Read
  rw [← hread, ← hread', Option.not_isSome_iff_eq_none, Option.not_isSome_iff_eq_none]
  refine or_congr_left ?_
  constructor
  · rintro ⟨v, w, hv, hw, hreordered⟩
    obtain rfl := hreordered.eq (payloadJson?_readable hv) (payloadJson?_readable hw)
    refine ⟨by rw [hv]; rfl, by rw [hw]; rfl, ?_⟩
    exact Document.alike_of_toJson? hkeys hkeys' (hread ▸ hv) (hread' ▸ hw)
  · rintro ⟨hsome, -, halike⟩
    obtain ⟨v, hv⟩ := Option.isSome_iff_exists.1 hsome
    have hw := halike.toJson? hkeys hkeys' (hread ▸ hv)
    exact ⟨v, v, hv, hread'.trans hw, (payloadJson?_readable hv).reordered_self⟩

theorem canonicalizes_wasmExecute : (wasmExecute contract payload funds).Canonicalizes ↔
    (payloadBytes? payload).isSome ∧ ∀ c ∈ funds, c.amount?.isSome := by
  unfold Canonicalizes
  simp only [canonical_wasmExecute, canonicalPayload_eq_ok, Coin.canonicalList_eq_ok]
  constructor
  · rintro ⟨_, _, ⟨bytes, hbytes, -⟩, _, ⟨hfunds, -⟩, -⟩
    exact ⟨by rw [hbytes]; rfl, hfunds⟩
  · rintro ⟨hbytes, hfunds⟩
    obtain ⟨bytes, hbytes⟩ := Option.isSome_iff_exists.1 hbytes
    exact ⟨_, _, ⟨bytes, hbytes, rfl⟩, _, ⟨hfunds, rfl⟩, rfl⟩

theorem messagesMatch_pair {m m' : StoredMessage} : messagesMatch [m] [m'] = .ok true ↔
    m.Canonicalizes ∧ m'.Canonicalizes ∧ m.Equivalent m' := by
  constructor
  · intro h
    obtain ⟨b, hsame, -⟩ := bind_eq_ok.1 h
    obtain ⟨c, hc, hsame⟩ := bind_eq_ok.1 hsame
    obtain ⟨c', hc', -⟩ := bind_eq_ok.1 hsame
    have hm : m.Canonicalizes := ⟨c, hc⟩
    have hm' : m'.Canonicalizes := ⟨c', hc'⟩
    have hequivalent := (allSame_eq_true (List.forall_mem_singleton.2 hm)
      (List.forall_mem_singleton.2 hm') rfl).1 h
    exact ⟨hm, hm', by simpa using hequivalent⟩
  · rintro ⟨hm, hm', hequivalent⟩
    exact (allSame_eq_true (List.forall_mem_singleton.2 hm) (List.forall_mem_singleton.2 hm') rfl).2
      (.cons hequivalent .nil)

theorem payloadBytes?_isSome (hd : payloadDocument? payload = some d) :
    (payloadBytes? payload).isSome := by
  obtain ⟨s, hs, -⟩ := Option.bind_eq_some_iff.1 hd
  obtain ⟨bytes, hbytes, -⟩ := Option.bind_eq_some_iff.1 hs
  rw [hbytes]
  rfl

/-- Calls with the same coins match when their payloads differ in the order of keys at most, and in
literals that are read as the same number. -/
theorem calls_match_iff (hd : payloadDocument? payload = some d)
    (hd' : payloadDocument? payload' = some d') (hkeys : d.DistinctKeys)
    (hkeys' : d'.DistinctKeys) :
    messagesMatch [.wasmExecute contract payload funds] [.wasmExecute contract' payload' funds']
        = .ok true ↔
      contract = contract' ∧ (∀ c ∈ funds ++ funds', c.amount?.isSome) ∧
        Coin.Equivalent funds funds' ∧
        (Read d ∧ Read d' ∧ d.Alike Literal.ReadAlike d' ∨
          ¬ Read d ∧ ¬ Read d' ∧ payloadBytes? payload = payloadBytes? payload') := by
  have hbytes := payloadBytes?_isSome hd
  have hbytes' := payloadBytes?_isSome hd'
  rw [messagesMatch_pair, canonicalizes_wasmExecute, canonicalizes_wasmExecute, Equivalent,
    List.forall_mem_append, ← samePayload_iff hd hd' hkeys hkeys']
  tauto

theorem payloadDocument?_of_bytes_eq (h : payloadBytes? payload = payloadBytes? payload') :
    payloadDocument? payload = payloadDocument? payload' := by
  rw [payloadDocument?, h, payloadDocument?]

theorem payloadDocument?_ofText {s : String} (h : Document.parse? s = some d) :
    payloadDocument? (Base64.ofText s) = some d := by
  rw [payloadDocument?, payloadBytes?, Base64.ofText_eq_ofBytes, Base64.trimmed_ofBytes,
    Option.bind_some, Base64.toText?_eq_some.2 rfl, Option.bind_some, h]

/-- A call is told from every call with another document exactly when the numbers of its own
payload, if it is read, are all 64-bit integers. -/
theorem call_unconfused_iff (hd : payloadDocument? payload = some d) (hkeys : d.DistinctKeys)
    (hfunds : ∀ c ∈ funds, c.amount?.isSome) :
    (∀ contract' payload' funds' d', payloadDocument? payload' = some d' → d'.DistinctKeys →
      messagesMatch [.wasmExecute contract payload funds] [.wasmExecute contract' payload' funds']
        = .ok true → d.Alike Literal.SameValue d') ↔
    (Read d → d.Each (·.integer?.isSome)) := by
  constructor
  · intro htold hread
    -- a number that is lost gives another document with the same reading
    by_contra hlost
    obtain ⟨v, hv⟩ := Option.isSome_iff_exists.1 hread
    obtain ⟨d', hkeys', hwritten', halike, hne⟩ :=
      Document.exists_number_lost hkeys (payloadDocument?_written hd) hv hlost
    -- the document that is read alike is written down as the payload of another call
    have hv' := halike.toJson? hkeys hkeys' hv
    obtain ⟨cs, hcs⟩ := Document.exists_text hwritten' hv'
    have hparse : Document.parse? (String.ofList cs) = some d' := by
      rw [Document.parse?, String.toList_ofList, hcs.ofChars?]
    have hd' := payloadDocument?_ofText hparse
    refine hne (htold contract _ funds d' hd' hkeys' ?_)
    refine (calls_match_iff hd hd' hkeys hkeys').2 ⟨rfl, ?_, fun _ => rfl, .inl ⟨hread, ?_, halike⟩⟩
    · exact List.forall_mem_append.2 ⟨hfunds, hfunds⟩
    · unfold Read
      rw [hv']
      rfl
  · intro hint contract' payload' funds' d' hd' hkeys' hmatch
    obtain ⟨-, -, -, hpayload⟩ := (calls_match_iff hd hd' hkeys hkeys').1 hmatch
    rcases hpayload with ⟨hread, -, halike⟩ | ⟨-, -, hbytes⟩
    · exact halike.sameValue (payloadDocument?_written hd) (payloadDocument?_written hd')
        (hint hread)
    · have hsame := payloadDocument?_of_bytes_eq hbytes
      rw [hd, hd'] at hsame
      obtain rfl := Option.some.inj hsame
      exact Document.alike_self (R := Literal.SameValue) (fun _ => rfl) d

def transferPayload (amount : String) : String :=
  Base64.ofText ("\x7b\"transfer\":\x7b\"amount\":" ++ amount ++ "\x7d\x7d")

def transferDocument (amount : ℕ) : Document :=
  .object [(some "transfer", .object [(some "amount", .number ⟨false, amount, 0, true⟩)])]

theorem transferDocument_distinctKeys (amount : ℕ) : (transferDocument amount).DistinctKeys := by
  refine .object (by simp) ?_
  rw [List.forall_mem_singleton]
  refine .object (by simp) ?_
  rw [List.forall_mem_singleton]
  exact .number _

theorem transferDocument_alike {R : Literal → Literal → Prop} {a b : ℕ}
    (h : (transferDocument a).Alike R (transferDocument b)) :
    R ⟨false, a, 0, true⟩ ⟨false, b, 0, true⟩ := by
  cases h with | object hperm _ h =>
  obtain rfl := List.singleton_perm.1 hperm
  have hinner := h _ List.mem_cons_self
  cases hinner with | object hperm _ h =>
  obtain rfl := List.singleton_perm.1 hperm
  have hnumber := h _ List.mem_cons_self
  cases hnumber with | number h => exact h

theorem call_unconfused_of_greatest :
    payloadDocument? (transferPayload "18446744073709551615")
        = some (transferDocument 18446744073709551615) ∧
      (transferDocument 18446744073709551615).DistinctKeys ∧
      (∀ c ∈ ([] : List Coin), c.amount?.isSome) ∧
      ∀ contract' payload' funds' d', payloadDocument? payload' = some d' → d'.DistinctKeys →
        messagesMatch [.wasmExecute "terra1feed" (transferPayload "18446744073709551615") []]
          [.wasmExecute contract' payload' funds'] = .ok true →
        (transferDocument 18446744073709551615).Alike Literal.SameValue d' := by
  have hd : payloadDocument? (transferPayload "18446744073709551615")
      = some (transferDocument 18446744073709551615) := payloadDocument?_ofText rfl
  have hkeys := transferDocument_distinctKeys 18446744073709551615
  have hfunds : ∀ c ∈ ([] : List Coin), c.amount?.isSome := by simp
  refine ⟨hd, hkeys, hfunds, (call_unconfused_iff hd hkeys hfunds).2 fun _ => ?_⟩
  refine .object ?_
  rw [List.forall_mem_singleton]
  refine .object ?_
  rw [List.forall_mem_singleton]
  exact .number rfl

/-- The next two amounts are both read as `2 ^ 64`. -/
theorem transfers_confused :
    payloadDocument? (transferPayload "18446744073709551616")
        = some (transferDocument 18446744073709551616) ∧
      payloadDocument? (transferPayload "18446744073709551617")
        = some (transferDocument 18446744073709551617) ∧
      (transferDocument 18446744073709551616).DistinctKeys ∧
      (transferDocument 18446744073709551617).DistinctKeys ∧
      messagesMatch [.wasmExecute "terra1feed" (transferPayload "18446744073709551616") []]
        [.wasmExecute "terra1feed" (transferPayload "18446744073709551617") []] = .ok true ∧
      ¬ (transferDocument 18446744073709551616).Alike Literal.SameValue
        (transferDocument 18446744073709551617) := by
  refine ⟨payloadDocument?_ofText rfl, payloadDocument?_ofText rfl, transferDocument_distinctKeys _,
    transferDocument_distinctKeys _, by decide +kernel, fun h => ?_⟩
  have hvalue := transferDocument_alike h
  norm_num [Literal.SameValue, Literal.exact] at hvalue

end StoredMessage

end Countersign
