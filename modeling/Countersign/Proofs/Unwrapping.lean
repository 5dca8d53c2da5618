import Countersign.Proofs.ReceiptShapes
import Mathlib

/-! Decoding a receipt ends. Each step unwraps one layer: a text gives way to the value that it writes,
and a value to the text or the list of results that it holds. From one text to the next bytes are lost,
and a list of results holds no further layer. -/

namespace Countersign.Receipt

/-- A receipt, or what is left of it once some layers are unwrapped. -/
inductive Layer where
  | text (raw : String)
  | value (v : Json)

/-- What is decoded next, in place of a layer. -/
inductive Unwraps : Layer → Layer → Prop
  | parsed {raw : String} {v : Json} (h : Json.parse? raw = some v) :
      Unwraps (.text raw) (.value v)
  | quoted (raw : String) : Unwraps (.value (.text raw)) (.text raw)
  | logs {entries : List (String × Json)} {item : Json} {items : List Json}
      (h : entries.lookup "logs" = some (.list (item :: items))) :
      Unwraps (.value (.object entries)) (.value (.list (item :: items)))
  | rawLog {entries : List (String × Json)} {raw : String}
      (hlogs : ∀ item items, entries.lookup "logs" ≠ some (.list (item :: items)))
      (hraw : entries.lookup "raw_log" = some (.text raw)) :
      Unwraps (.value (.object entries)) (.text raw)

def Layer.decode : Layer → Decoded
  | .text raw => decodeText raw
  | .value v => Receipt.decode (some v)

namespace Unwraps

variable {raw inner : String} {v w : Json} {outer next : Layer}

/-! ### One step -/

theorem hasText (h : Unwraps (.value v) (.text inner)) : v.HasText inner := by
  cases h with
  | quoted => exact .self
  | rawLog _ hraw => exact .entry (mem_of_lookup hraw)

theorem shorter (h : Unwraps (.text raw) (.value v)) (h' : Unwraps (.value v) (.text inner)) :
    inner.utf8ByteSize < raw.utf8ByteSize := by
  cases h with
  | parsed hparse => exact h'.hasText.shorter hparse

theorem innermost (h : Unwraps (.value v) (.value w)) : ∀ next, ¬Unwraps (.value w) next := by
  cases h with
  | logs =>
    intro next h'
    cases h'

theorem decodeWith_text (h : Unwraps (.value v) (.text inner)) (text : String → Decoded) :
    decodeWith text v = text inner := by
  cases h with
  | quoted => rfl
  | rawLog hlogs hraw => exact decodeObject_rawLog hlogs hraw

theorem decodeWith_value (h : Unwraps (.value v) (.value w)) (text : String → Decoded) :
    decodeWith text v = decodeWith text w := by
  cases h with
  | logs hlogs => exact decodeObject_logs hlogs

theorem decode_eq (h : Unwraps outer next) : outer.decode = next.decode := by
  cases h with
  | parsed hparse => exact decodeText_of_parse hparse
  | quoted raw => exact (quoted raw).decodeWith_text decodeText
  | logs hlogs => exact (logs hlogs).decodeWith_value decodeText
  | rawLog hlogs hraw => exact (rawLog hlogs hraw).decodeWith_text decodeText

end Unwraps

theorem decodeWith_of_not_text {v : Json} (h : ∀ inner, ¬Unwraps (.value v) (.text inner))
    (text text' : String → Decoded) : decodeWith text v = decodeWith text' v := by
  cases v with
  | text raw => exact absurd (.quoted raw) (h raw)
  | object entries =>
    rw [decodeWith, decodeWith, decodeObject.eq_def, decodeObject.eq_def]
    split
    · rfl
    · next hlogs =>
      split
      · next raw hraw => exact absurd (.rawLog hlogs hraw) (h raw)
      · rfl
  | _ => rfl

/-! ### All steps -/

theorem acc_of_innermost {outer : Layer} (h : ∀ next, ¬Unwraps outer next) :
    Acc (fun next outer => Unwraps outer next) outer :=
  ⟨outer, fun next hnext => absurd hnext (h next)⟩

theorem acc_text (raw : String) : Acc (fun next outer => Unwraps outer next) (.text raw) := by
  induction hn : raw.utf8ByteSize using Nat.strongRecOn generalizing raw with
  | ind n ih =>
    refine ⟨_, fun next hparsed => ?_⟩
    cases next with
    | text inner => cases hparsed
    | value v =>
      refine ⟨_, fun next hnext => ?_⟩
      cases next with
      | text inner => exact ih _ (hn ▸ hparsed.shorter hnext) inner rfl
      | value w => exact acc_of_innermost hnext.innermost

theorem acc_value (v : Json) : Acc (fun next outer => Unwraps outer next) (.value v) := by
  refine ⟨_, fun next hnext => ?_⟩
  cases next with
  | text inner => exact acc_text inner
  | value w => exact acc_of_innermost hnext.innermost

theorem wellFounded_unwraps : WellFounded fun next outer => Unwraps outer next := by
  refine ⟨fun outer => ?_⟩
  cases outer with
  | text raw => exact acc_text raw
  | value v => exact acc_value v

/-- Layer after layer, a receipt comes down to one that holds no other, and is decoded as that one. -/
theorem exists_innermost (outer : Layer) : ∃ last, Relation.ReflTransGen Unwraps outer last ∧
    (∀ next, ¬Unwraps last next) ∧ outer.decode = last.decode := by
  induction outer using wellFounded_unwraps.induction with
  | h outer ih =>
    by_cases hnext : ∃ next, Unwraps outer next
    · obtain ⟨next, hnext⟩ := hnext
      obtain ⟨last, hchain, hlast, hdecode⟩ := ih next hnext
      exact ⟨last, .head hnext hchain, hlast, hnext.decode_eq.trans hdecode⟩
    · exact ⟨outer, .refl, not_exists.1 hnext, rfl⟩

/-! ### The recursion -/

/-- A decoder of texts that decodes the value of a text with itself, with nothing to bound how often. -/
def Recurses (text : String → Decoded) : Prop :=
  ∀ raw, text raw =
    (Json.parse? raw).elim (.nothing (.unparseable raw.utf8ByteSize)) (decodeWith text)

theorem recurses_decodeText : Recurses decodeText := by
  intro raw
  cases hparse : Json.parse? raw with
  | none => exact decodeText_unparseable hparse
  | some v => exact decodeText_of_parse hparse

theorem Recurses.eq_decodeText {text : String → Decoded} (h : Recurses text) : text = decodeText := by
  funext raw
  induction hn : raw.utf8ByteSize using Nat.strongRecOn generalizing raw with
  | ind n ih =>
    rw [h, recurses_decodeText]
    cases hparse : Json.parse? raw with
    | none => rfl
    | some v => exact decodeWith_congr fun s hs => ih _ (hn ▸ hs.shorter hparse) s rfl

/-- Decoding ends for every text and every value. From a text that is parsed to the text found in it
bytes are lost, and from `logs` nothing more is unwrapped, so no chain of layers goes on for ever, and
each comes down to a layer that is decoded by itself. The layers are those of the decoder: a text is
decoded within a value only where it is unwrapped from it. So the recursion of the decoder has one
solution, and the bounded one is that. -/
theorem unwrapping_ends :
    (∀ raw v inner, Unwraps (.text raw) (.value v) → Unwraps (.value v) (.text inner) →
      inner.utf8ByteSize < raw.utf8ByteSize) ∧
    (∀ v w, Unwraps (.value v) (.value w) → ∀ next, ¬Unwraps (.value w) next) ∧
    (WellFounded fun next outer => Unwraps outer next) ∧
    (∀ outer, ∃ last, Relation.ReflTransGen Unwraps outer last ∧ (∀ next, ¬Unwraps last next) ∧
      outer.decode = last.decode) ∧
    (∀ v (text : String → Decoded),
      (∀ inner, Unwraps (.value v) (.text inner) → decodeWith text v = text inner) ∧
      (∀ w, Unwraps (.value v) (.value w) → decodeWith text v = decodeWith text w) ∧
      ((∀ inner, ¬Unwraps (.value v) (.text inner)) →
        ∀ text', decodeWith text v = decodeWith text' v)) ∧
    ∀ text, Recurses text ↔ text = decodeText := by
  refine ⟨fun raw v inner hparsed hfound => hparsed.shorter hfound, fun v w hlogs => hlogs.innermost,
    wellFounded_unwraps, exists_innermost, fun v text => ⟨?_, ?_, ?_⟩, fun text => ⟨?_, ?_⟩⟩
  · exact fun inner hfound => hfound.decodeWith_text text
  · exact fun w hlogs => hlogs.decodeWith_value text
  · exact fun hnone text' => decodeWith_of_not_text hnone text text'
  · exact fun htext => htext.eq_decodeText
  · rintro rfl
    exact recurses_decodeText

end Countersign.Receipt
