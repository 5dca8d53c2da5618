import Countersign.Proofs.Base64
import Countersign.Proofs.Coins
import Countersign.Proofs.JsonText
import Countersign.Proofs.Reordering
import Countersign.Message.Stored
import Mathlib

/-!
What the comparison of messages tells apart. A payload that reads as JSON stands for its value, and
any other payload for its bytes.
-/

namespace Countersign.StoredMessage

def payloadBytes? (payload : String) : Option (List UInt8) :=
  Base64.decode? (Text.trimmed payload.toList)

def payloadJson? (payload : String) : Option Json :=
  ((payloadBytes? payload).bind Base64.toText?).bind Json.parse?

/-- Both payloads read as JSON, to the same value up to the order of keys, or neither does and they
have the same bytes. -/
def SamePayload (p q : String) : Prop :=
  (∃ v w, payloadJson? p = some v ∧ payloadJson? q = some w ∧ v.Reordered w) ∨
    (payloadJson? p = none ∧ payloadJson? q = none ∧ payloadBytes? p = payloadBytes? q)

def Equivalent : StoredMessage → StoredMessage → Prop
  | .bankSend recipient amount, .bankSend recipient' amount' =>
    recipient = recipient' ∧ Coin.Equivalent amount amount'
  | .wasmExecute contract payload funds, .wasmExecute contract' payload' funds' =>
    contract = contract' ∧ SamePayload payload payload' ∧ Coin.Equivalent funds funds'
  | _, _ => False

/-! ### Payloads -/

theorem encodeJson_eq {depth : ℕ} {v : Json} (hv : v.Readable depth) :
    encodeJson v = Base64.ofText v.write := by
  rw [encodeJson, hv.sorted_eq]

theorem encodeJson_inj {v w : Json} (hv : v.Readable Document.greatestDepth)
    (hw : w.Readable Document.greatestDepth) : encodeJson v = encodeJson w ↔ v = w := by
  constructor
  · intro h
    rw [encodeJson_eq hv, encodeJson_eq hw, Base64.ofText_eq_ofBytes, Base64.ofText_eq_ofBytes,
      Base64.ofBytes_inj] at h
    have htext := Base64.toText?_eq_some.2 h
    rw [Base64.toText?_eq_some.2 rfl] at htext
    have hwrite : w.write = v.write := Option.some.inj htext
    have hread := Json.parse?_write hv
    rw [← hwrite, Json.parse?_write hw] at hread
    exact (Option.some.inj hread).symm
  · rintro rfl
    rfl

theorem encodeJson_ne {v : Json} (hv : v.Readable Document.greatestDepth) {bytes : List UInt8}
    (h : (Base64.toText? bytes).bind Json.parse? = none) : encodeJson v ≠ Base64.ofBytes bytes := by
  intro heq
  rw [encodeJson_eq hv, Base64.ofText_eq_ofBytes, Base64.ofBytes_inj] at heq
  rw [Base64.toText?_eq_some.2 heq, Option.bind_some, Json.parse?_write hv] at h
  cases h

theorem canonicalPayload_eq_ok {payload p : String} : canonicalPayload payload = .ok p ↔
    ∃ bytes, payloadBytes? payload = some bytes ∧
      p = match payloadJson? payload with
        | some v => encodeJson v
        | none => Base64.ofBytes bytes := by
  rw [canonicalPayload, payloadJson?, payloadBytes?]
  cases Base64.decode? (Text.trimmed payload.toList) with
  | none => simp
  | some bytes =>
    simp only [Option.bind_some, Option.some.injEq, exists_eq_left']
    cases (Base64.toText? bytes).bind Json.parse? <;> simp [eq_comm]

theorem payloadJson?_readable {payload : String} {v : Json} (h : payloadJson? payload = some v) :
    v.Readable Document.greatestDepth := by
  obtain ⟨s, -, hs⟩ := Option.bind_eq_some_iff.1 h
  exact Json.parse?_readable hs

theorem canonicalPayload_eq_iff {payload payload' p p' : String}
    (h : canonicalPayload payload = .ok p) (h' : canonicalPayload payload' = .ok p') :
    p = p' ↔ SamePayload payload payload' := by
  obtain ⟨bytes, hbytes, rfl⟩ := canonicalPayload_eq_ok.1 h
  obtain ⟨bytes', hbytes', rfl⟩ := canonicalPayload_eq_ok.1 h'
  have hread : payloadJson? payload = (Base64.toText? bytes).bind Json.parse? := by
    rw [payloadJson?, hbytes, Option.bind_some]
  have hread' : payloadJson? payload' = (Base64.toText? bytes').bind Json.parse? := by
    rw [payloadJson?, hbytes', Option.bind_some]
  unfold SamePayload
  rw [hbytes, hbytes']
  -- the two kinds of canonical payload never meet, so each kind is compared within itself
  cases hv : payloadJson? payload with
  | some v =>
    have hvr := payloadJson?_readable hv
    cases hw : payloadJson? payload' with
    | some w =>
      have hwr := payloadJson?_readable hw
      rw [encodeJson_inj hvr hwr]
      constructor
      · rintro rfl
        exact .inl ⟨v, v, rfl, rfl, hvr.reordered_self⟩
      · rintro (⟨_, _, ⟨⟩, ⟨⟩, hreordered⟩ | ⟨⟨⟩, -⟩)
        exact hreordered.eq hvr hwr
    | none =>
      refine ⟨fun heq => absurd heq (encodeJson_ne hvr (hread' ▸ hw)), ?_⟩
      rintro (⟨_, _, -, ⟨⟩, -⟩ | ⟨⟨⟩, -⟩)
  | none =>
    cases hw : payloadJson? payload' with
    | some w =>
      have hwr := payloadJson?_readable hw
      refine ⟨fun heq => absurd heq.symm (encodeJson_ne hwr (hread ▸ hv)), ?_⟩
      rintro (⟨_, _, ⟨⟩, -⟩ | ⟨-, ⟨⟩, -⟩)
    | none =>
      rw [Base64.ofBytes_inj]
      constructor
      · rintro rfl
        exact .inr ⟨rfl, rfl, rfl⟩
      · rintro (⟨_, _, ⟨⟩, -⟩ | ⟨-, -, hbytes⟩)
        exact Option.some.inj hbytes

/-! ### Messages -/

def Canonicalizes (m : StoredMessage) : Prop :=
  ∃ c, m.canonical = .ok c

theorem canonicalizes_of_toBool {m : StoredMessage} (h : m.canonical.toBool = true) :
    m.Canonicalizes := by
  rw [Canonicalizes]
  cases hm : m.canonical with
  | error e => rw [hm] at h; cases h
  | ok c => exact ⟨c, rfl⟩

theorem canonical_bankSend {recipient : String} {amount : List Coin} {c : StoredMessage} :
    (bankSend recipient amount).canonical = .ok c ↔
      ∃ coins, Coin.canonicalList amount = .ok coins ∧ .bankSend recipient coins = c := by
  rw [canonical]
  simp only [bind_eq_ok, pure, Except.pure, Except.ok.injEq]

theorem canonical_wasmExecute {contract payload : String} {funds : List Coin} {c : StoredMessage} :
    (wasmExecute contract payload funds).canonical = .ok c ↔
      ∃ p, canonicalPayload payload = .ok p ∧
        ∃ coins, Coin.canonicalList funds = .ok coins ∧ .wasmExecute contract p coins = c := by
  rw [canonical]
  simp only [bind_eq_ok, pure, Except.pure, Except.ok.injEq]

theorem canonical_eq_iff {m m' c c' : StoredMessage} (h : m.canonical = .ok c)
    (h' : m'.canonical = .ok c') : c = c' ↔ m.Equivalent m' := by
  cases m with
  | bankSend recipient amount =>
    obtain ⟨coins, hcoins, rfl⟩ := canonical_bankSend.1 h
    cases m' with
    | bankSend recipient' amount' =>
      obtain ⟨coins', hcoins', rfl⟩ := canonical_bankSend.1 h'
      rw [bankSend.injEq, Coin.canonicalList_eq_iff hcoins hcoins', Equivalent]
    | wasmExecute contract' payload' funds' =>
      obtain ⟨p', -, coins', -, rfl⟩ := canonical_wasmExecute.1 h'
      exact ⟨nofun, nofun⟩
  | wasmExecute contract payload funds =>
    obtain ⟨p, hp, coins, hcoins, rfl⟩ := canonical_wasmExecute.1 h
    cases m' with
    | bankSend recipient' amount' =>
      obtain ⟨coins', -, rfl⟩ := canonical_bankSend.1 h'
      exact ⟨nofun, nofun⟩
    | wasmExecute contract' payload' funds' =>
      obtain ⟨p', hp', coins', hcoins', rfl⟩ := canonical_wasmExecute.1 h'
      rw [wasmExecute.injEq, canonicalPayload_eq_iff hp hp',
        Coin.canonicalList_eq_iff hcoins hcoins', Equivalent]

theorem same_eq_ok {m m' c c' : StoredMessage} (h : m.canonical = .ok c)
    (h' : m'.canonical = .ok c') : m.same m' = .ok (c == c') := by
  rw [same, h, h']
  rfl

theorem allSame_eq_true {stored generated : List StoredMessage}
    (hstored : ∀ m ∈ stored, m.Canonicalizes) (hgenerated : ∀ m ∈ generated, m.Canonicalizes)
    (hlen : stored.length = generated.length) :
    allSame stored generated = .ok true ↔ List.Forall₂ Equivalent stored generated := by
  induction stored generalizing generated with
  | nil =>
    obtain rfl := List.length_eq_zero_iff.1 hlen.symm
    simp [allSame, pure, Except.pure]
  | cons m stored ih =>
    obtain ⟨m', generated, rfl⟩ := List.exists_cons_of_length_eq_add_one hlen.symm
    rw [List.forall_mem_cons] at hstored hgenerated
    obtain ⟨⟨c, hc⟩, hstored⟩ := hstored
    obtain ⟨⟨c', hc'⟩, hgenerated⟩ := hgenerated
    rw [List.forall₂_cons, ← canonical_eq_iff hc hc', ← ih hstored hgenerated (Nat.succ.inj hlen),
      allSame, same_eq_ok hc hc']
    by_cases heq : c = c'
    · simp [heq, bind, Except.bind]
    · simp [heq, bind, Except.bind, pure, Except.pure]

theorem messagesMatch_iff_equivalent {stored generated : List StoredMessage}
    (hstored : ∀ m ∈ stored, m.Canonicalizes) (hgenerated : ∀ m ∈ generated, m.Canonicalizes) :
    messagesMatch stored generated = .ok true ↔ List.Forall₂ Equivalent stored generated := by
  rw [messagesMatch]
  split
  · next hlen => exact allSame_eq_true hstored hgenerated hlen
  · next hlen => exact ⟨nofun, fun h => absurd h.length_eq hlen⟩

def storedCall : StoredMessage :=
  .wasmExecute "terra1feed" "eyJiIjogMSwgImEiOiBbdHJ1ZSwgbnVsbF19"
    [⟨"uusd", "07"⟩, ⟨"uluna", "1"⟩, ⟨"uusd", "3"⟩]

def preparedCall : StoredMessage :=
  .wasmExecute "terra1feed" "eyJhIjpbdHJ1ZSxudWxsXSwiYiI6MX0="
    [⟨"uluna", "+1"⟩, ⟨"uusd", "7"⟩, ⟨"uusd", "3"⟩]

theorem storedCall_equivalent :
    (∀ m ∈ [storedCall], m.Canonicalizes) ∧ (∀ m ∈ [preparedCall], m.Canonicalizes) ∧
      List.Forall₂ Equivalent [storedCall] [preparedCall] := by
  have hstored : ∀ m ∈ [storedCall], m.Canonicalizes := by
    simpa using canonicalizes_of_toBool (m := storedCall) (by decide +kernel)
  have hprepared : ∀ m ∈ [preparedCall], m.Canonicalizes := by
    simpa using canonicalizes_of_toBool (m := preparedCall) (by decide +kernel)
  exact ⟨hstored, hprepared, (messagesMatch_iff_equivalent hstored hprepared).1 (by decide +kernel)⟩

end Countersign.StoredMessage
