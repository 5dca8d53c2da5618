import Countersign.Message.Basic
import Countersign.Proofs.Comparison
import Mathlib

/-! A message prepared locally in the form in which a proposal stores it. It can always be compared,
it matches itself, and reading what was stored gives it back. -/

namespace Countersign

theorem mapM_eq_some_iff {α β : Type} {read : α → Option β} {items : List α} {values : List β} :
    items.mapM read = some values ↔ List.Forall₂ (fun v a => read v = some a) items values := by
  induction items generalizing values with
  | nil => simp [eq_comm]
  | cons v rest ih =>
    simp only [List.mapM_cons, Option.bind_eq_bind, Option.bind_eq_some_iff, Option.pure_def,
      Option.some.injEq, List.forall₂_cons_left_iff, ih]
    grind

theorem mapM_map_eq_some {α β : Type} {read : β → Option α} {write : α → β} {items : List α}
    (h : ∀ a, read (write a) = some a) : (items.map write).mapM read = some items :=
  mapM_eq_some_iff.2 <| List.forall₂_map_left_iff.2 <| List.forall₂_same.2 fun a _ => h a

theorem Record.list?_map {α : Type} {read : Json → Option α} {write : α → Json} (items : List α)
    (h : ∀ a, read (write a) = some a) :
    Record.list? read (.list (items.map write)) = some items :=
  mapM_map_eq_some h

namespace Coin

theorem read?_toJson (c : Coin) : read? c.toJson = some c := rfl

theorem canonicalList_canonical {coins cs : List Coin} (h : canonicalList coins = .ok cs) :
    ∃ ds, canonicalList cs = .ok ds := by
  obtain ⟨hread, rfl⟩ := canonicalList_eq_ok.1 h
  refine ⟨_, canonicalList_eq_ok.2 ⟨fun c hc => ?_, rfl⟩⟩
  obtain ⟨d, hd, rfl⟩ := List.mem_map.1 ((ordered_perm _).mem_iff.1 hc)
  rw [amount?_plain (hread d hd)]
  exact hread d hd

end Coin

namespace StoredMessage

theorem read?_toJson (m : StoredMessage) : read? m.toJson = some m := by
  -- only the list of coins has to be read; the names and texts around it are in place
  cases m with
  | bankSend recipient amount =>
    change (Record.list? Coin.read? (.list (amount.map Coin.toJson))).bind
      (fun coins => some (bankSend recipient coins)) = _
    rw [Record.list?_map amount Coin.read?_toJson, Option.bind_some]
  | wasmExecute contract payload funds =>
    change (Record.list? Coin.read? (.list (funds.map Coin.toJson))).bind
      (fun coins => some (wasmExecute contract payload coins)) = _
    rw [Record.list?_map funds Coin.read?_toJson, Option.bind_some]

theorem ofJson_toJson (m : StoredMessage) : ofJson m.toJson = .ok m := by
  rw [ofJson, read?_toJson]

theorem payloadBytes?_ofBytes (bytes : List UInt8) :
    payloadBytes? (Base64.ofBytes bytes) = some bytes := by
  rw [payloadBytes?, Base64.trimmed_ofBytes]

theorem payloadBytes?_encodeJson (v : Json) :
    payloadBytes? (encodeJson v) = some v.sorted.write.toUTF8.data.toList := by
  rw [encodeJson, Base64.ofText_eq_ofBytes, payloadBytes?_ofBytes]

theorem canonicalPayload_encodeJson (v : Json) : ∃ p, canonicalPayload (encodeJson v) = .ok p :=
  ⟨_, canonicalPayload_eq_ok.2 ⟨_, payloadBytes?_encodeJson v, rfl⟩⟩

theorem canonicalizes_of_normalize {candidate : Message} {m : StoredMessage}
    (h : candidate.normalize = .ok m) : m.Canonicalizes := by
  cases candidate with
  | send sender recipient amount =>
    simp only [Message.normalize, bind_eq_ok, pure, Except.pure, Except.ok.injEq] at h
    obtain ⟨coins, hcoins, rfl⟩ := h
    obtain ⟨coins', hcoins'⟩ := Coin.canonicalList_canonical hcoins
    exact ⟨_, canonical_bankSend.2 ⟨coins', hcoins', rfl⟩⟩
  | execute sender contract call coins =>
    simp only [Message.normalize, bind_eq_ok, pure, Except.pure, Except.ok.injEq] at h
    obtain ⟨funds, hfunds, rfl⟩ := h
    obtain ⟨funds', hfunds'⟩ := Coin.canonicalList_canonical hfunds
    obtain ⟨p, hp⟩ := canonicalPayload_encodeJson call
    exact ⟨_, canonical_wasmExecute.2 ⟨p, hp, funds', hfunds', rfl⟩⟩

theorem messagesMatch_self {m : StoredMessage} (h : m.Canonicalizes) :
    messagesMatch [m] [m] = .ok true := by
  obtain ⟨c, hc⟩ := h
  simp [messagesMatch, allSame, same_eq_ok hc hc, bind, Except.bind, pure, Except.pure]

theorem exists_messagesMatch {stored generated : List StoredMessage}
    (hstored : ∀ m ∈ stored, m.Canonicalizes) (hgenerated : ∀ m ∈ generated, m.Canonicalizes) :
    ∃ same, messagesMatch stored generated = .ok same := by
  have hall : ∃ same, allSame stored generated = .ok same := by
    fun_induction allSame stored generated with
    | case1 a as b bs ih =>
      obtain ⟨⟨c, hc⟩, has⟩ := List.forall_mem_cons.1 hstored
      obtain ⟨⟨d, hd⟩, hbs⟩ := List.forall_mem_cons.1 hgenerated
      rw [same_eq_ok hc hd]
      cases hsame : c == d with
      | true => exact ih has hbs
      | false => exact ⟨false, rfl⟩
    | case2 => exact ⟨true, rfl⟩
  rw [messagesMatch]
  split
  · exact hall
  · exact ⟨false, rfl⟩

end StoredMessage
end Countersign
