import Countersign.Proofs.LostFields
import Countersign.Proofs.Stability
import Mathlib

/-! The encoding of a value in base64. It is base64 of one JSON text, without white space between its
tokens and with ascending keys, from which the value is read back. So values have the same encoding when
they differ in the order of keys at most. -/

namespace Countersign

namespace Document

def unquoted : (quoted : Bool) → List Char → List Char
  | _, [] => []
  | false, '"' :: cs => unquoted true cs
  | false, c :: cs => c :: unquoted false cs
  | true, '\\' :: _ :: cs => unquoted true cs
  | true, '"' :: cs => unquoted false cs
  | true, _ :: cs => unquoted true cs

def Compact (cs : List Char) : Prop :=
  ∀ c ∈ unquoted false cs, isSpace c = false

/-- Characters with complete texts, between which there is no white space. -/
def Tight (cs : List Char) : Prop :=
  ∃ kept : List Char, (∀ c ∈ kept, isSpace c = false) ∧
    ∀ rest, unquoted false (cs ++ rest) = kept ++ unquoted false rest

variable {as bs cs : List Char}

theorem Tight.compact (h : Tight cs) : Compact cs := by
  obtain ⟨kept, hkept, hrest⟩ := h
  intro c hc
  have hall := hrest []
  rw [List.append_nil, unquoted, List.append_nil] at hall
  exact hkept c (hall ▸ hc)

theorem tight_nil : Tight [] :=
  ⟨[], by simp, fun _ => rfl⟩

theorem Tight.append (ha : Tight as) (hb : Tight bs) : Tight (as ++ bs) := by
  obtain ⟨kept, hkept, harest⟩ := ha
  obtain ⟨kept', hkept', hbrest⟩ := hb
  refine ⟨kept ++ kept', List.forall_mem_append.2 ⟨hkept, hkept'⟩, fun rest => ?_⟩
  rw [List.append_assoc, harest, hbrest, List.append_assoc]

theorem tight_char {c : Char} (hquote : c ≠ '"') (hspace : isSpace c = false) : Tight [c] := by
  refine ⟨[c], by simpa using hspace, fun rest => ?_⟩
  rw [List.singleton_append, unquoted, List.singleton_append]
  exact hquote

theorem Tight.cons {c : Char} (h : Tight cs) (hquote : c ≠ '"') (hspace : isSpace c = false) :
    Tight (c :: cs) :=
  (tight_char hquote hspace).append h

theorem tight_of_forall (h : ∀ c ∈ cs, c ≠ '"' ∧ isSpace c = false) : Tight cs := by
  induction cs with
  | nil => exact tight_nil
  | cons c cs ih =>
    rw [List.forall_mem_cons] at h
    exact (ih h.2).cons h.1.1 h.1.2

theorem tight_joined {texts : List (List Char)} {close : Char} (hclose : Tight [close])
    (h : ∀ text ∈ texts, Tight text) : Tight (joined close texts) := by
  induction texts with
  | nil => exact hclose
  | cons text texts ih =>
    rw [List.forall_mem_cons] at h
    cases texts with
    | nil => exact h.1.append hclose
    | cons next texts => exact h.1.append ((ih h.2).cons (by decide) rfl)

theorem unquoted_plain {c : Char} (hquote : c ≠ '"') (hslash : c ≠ '\\') (cs : List Char) :
    unquoted true (c :: cs) = unquoted true cs := by
  rw [unquoted]
  · exact fun _ _ h _ => hslash h
  · exact hquote

theorem digitChar_plain : ∀ n < 16, Nat.digitChar n ≠ '"' ∧ Nat.digitChar n ≠ '\\' := by decide

theorem unquoted_escapeChar (c : Char) (rest : List Char) :
    unquoted true (Json.escapeChar c ++ rest) = unquoted true rest := by
  have hnamed : ∀ e, unquoted true (['\\', e] ++ rest) = unquoted true rest := fun e => by
    rw [List.cons_append, List.singleton_append, unquoted]
  unfold Json.escapeChar
  split
  · exact hnamed _
  · exact hnamed _
  · exact hnamed _
  · exact hnamed _
  · exact hnamed _
  · exact hnamed _
  · exact hnamed _
  next hquote hslash _ _ _ _ _ =>
  split
  · next hcontrol =>
    have hlt : c.toNat < 32 := hcontrol
    have hhigh := digitChar_plain (c.toNat / 16) (by omega)
    have hlow := digitChar_plain (c.toNat % 16) (by omega)
    simp only [List.cons_append, List.nil_append]
    rw [unquoted, unquoted_plain (by decide) (by decide), unquoted_plain (by decide) (by decide),
      unquoted_plain hhigh.1 hhigh.2, unquoted_plain hlow.1 hlow.2]
  · exact unquoted_plain hquote hslash rest

theorem tight_textChars (s : String) : Tight (Json.textChars s) := by
  refine ⟨[], by simp, fun rest => ?_⟩
  have hinside : ∀ cs : List Char, unquoted true (cs.flatMap Json.escapeChar ++ '"' :: rest) =
      unquoted false rest := by
    intro cs
    induction cs with
    | nil => rw [List.flatMap_nil, List.nil_append, unquoted]
    | cons c cs ih => rw [List.flatMap_cons, List.append_assoc, unquoted_escapeChar, ih]
  rw [Json.textChars, List.append_assoc, List.singleton_append, List.cons_append, unquoted, hinside,
    List.nil_append]

theorem tight_intChars (i : ℤ) : Tight (Json.intChars i) := by
  have hdigits : Tight (Nat.toDigits 10 i.natAbs) := by
    refine tight_of_forall fun c hc => ?_
    have hdigit := Text.isDigit_toDigits _ c hc
    refine ⟨?_, (digit_printing hdigit).1⟩
    rintro rfl
    cases hdigit
  rw [Json.intChars]
  split
  · exact hdigits.cons (by decide) rfl
  · exact hdigits

end Document

namespace Json

open Document

theorem Integral.tight_sorted {v : Json} (h : v.Integral) : Tight v.sorted.chars := by
  induction h with
  | null =>
    rw [sorted, chars]
    · exact tight_of_forall (by simp [isSpace])
    all_goals simp
  | bool b =>
    rw [sorted]
    · cases b with
      | true => rw [chars]; exact tight_of_forall (by simp [isSpace])
      | false => rw [chars]; exact tight_of_forall (by simp [isSpace])
    all_goals simp
  | int _ =>
    rw [sorted, chars]
    · exact tight_intChars _
    all_goals simp
  | text s =>
    rw [sorted, chars]
    · exact tight_textChars s
    all_goals simp
  | list _ ih =>
    rw [sorted, sortedItems_eq_map, chars, itemsChars_eq]
    refine (tight_joined (tight_char (by decide) rfl) ?_).cons (by decide) rfl
    simpa using ih
  | object _ ih =>
    rw [sorted, sortedEntries_eq_map, chars, entriesChars_eq]
    refine (tight_joined (tight_char (by decide) rfl) fun text htext => ?_).cons (by decide) rfl
    obtain ⟨e, he, rfl⟩ := List.mem_map.1 htext
    obtain ⟨d, hd, rfl⟩ := List.mem_map.1 (Entries.mem_ofList he)
    exact (tight_textChars d.1).append ((ih d hd).cons (by decide) rfl)

/-! ### Values up to the order of keys -/

inductive DistinctKeys : Json → Prop
  | null : DistinctKeys .null
  | bool (b : Bool) : DistinctKeys (.bool b)
  | int (i : ℤ) : DistinctKeys (.int i)
  | float (x : Decimal.Binary64) : DistinctKeys (.float x)
  | text (s : String) : DistinctKeys (.text s)
  | list {items : List Json} (h : ∀ v ∈ items, DistinctKeys v) : DistinctKeys (.list items)
  | object {entries : List (String × Json)} (hkeys : (entries.map Prod.fst).Nodup)
      (h : ∀ e ∈ entries, DistinctKeys e.2) : DistinctKeys (.object entries)

theorem Readable.distinctKeys {depth : ℕ} {v : Json} (h : v.Readable depth) : v.DistinctKeys := by
  induction h with
  | null => exact .null
  | bool b => exact .bool b
  | int _ => exact .int _
  | float _ => exact .float _
  | text s => exact .text s
  | list _ ih => exact .list ih
  | object hkeys _ ih => exact .object ((List.pairwise_map.2 hkeys).imp fun h => h.ne) ih

variable {v w : Json}

theorem keys_sorted (entries : List (String × Json)) :
    (entries.map fun e => (e.1, e.2.sorted)).map Prod.fst = entries.map Prod.fst := by
  rw [List.map_map]
  rfl

theorem exists_reordered {entries entries' : List (String × Json)}
    (h : (entries.map fun e => (e.1, e.2.sorted)).Perm (entries'.map fun e => (e.1, e.2.sorted))) :
    ∃ reordered, entries.Perm reordered ∧ reordered.map Prod.fst = entries'.map Prod.fst ∧
      ∀ p ∈ reordered.zip entries', p.1.2.sorted = p.2.2.sorted := by
  have hself : List.Forall₂ (fun m e => m = (e.1, e.2.sorted))
      (entries.map fun e => (e.1, e.2.sorted)) entries := by
    rw [List.forall₂_map_left_iff, List.forall₂_same]
    exact fun _ _ => rfl
  obtain ⟨reordered, hreordered, hperm⟩ := List.perm_comp_forall₂ h.symm hself
  have hmap : entries'.map (fun e => (e.1, e.2.sorted)) =
      reordered.map fun e => (e.1, e.2.sorted) := by
    rw [← List.forall₂_eq_eq_eq, List.forall₂_map_right_iff]
    exact hreordered
  obtain ⟨-, hvalues⟩ := List.forall₂_iff_zip.1 (List.forall₂_map_left_iff.1 hreordered).flip
  refine ⟨reordered, hperm.symm, ?_, fun p hp => (Prod.mk.inj (hvalues hp)).2.symm⟩
  rw [← keys_sorted, ← keys_sorted entries', hmap]

theorem Reordered.sorted_eq (h : v.Reordered w) (hv : v.DistinctKeys) (hw : w.DistinctKeys) :
    v.sorted = w.sorted := by
  induction h with
  | @list items items' hlen _ ih =>
    cases hv with | list hv =>
    cases hw with | list hw =>
    rw [sorted, sorted, sortedItems_eq_map, sortedItems_eq_map]
    congr 1
    refine eq_of_zip (by simpa using hlen) fun p hp => ?_
    rw [List.zip_map] at hp
    obtain ⟨q, hq, rfl⟩ := List.mem_map.1 hp
    exact ih q hq (hv _ (List.of_mem_zip hq).1) (hw _ (List.of_mem_zip hq).2)
  | @object entries reordered entries' hperm hkeys _ ih =>
    cases hv with | object hdistinct hv =>
    cases hw with | object hdistinct' hw =>
    have hsorted : reordered.map (fun e => (e.1, e.2.sorted)) =
        entries'.map fun e => (e.1, e.2.sorted) := by
      have hlen : reordered.length = entries'.length := by simpa using congrArg List.length hkeys
      refine eq_of_zip (by simpa using hlen) fun p hp => ?_
      rw [List.zip_map] at hp
      obtain ⟨q, hq, rfl⟩ := List.mem_map.1 hp
      obtain ⟨hleft, hright⟩ := List.of_mem_zip hq
      have hkey : q.1.1 = q.2.1 := zip_key hkeys hq
      exact Prod.ext hkey (ih q hq (hv _ (hperm.mem_iff.2 hleft)) (hw _ hright))
    rw [sorted, sorted, sortedEntries_eq_map, sortedEntries_eq_map]
    congr 1
    refine (Entries.ofList_eq_iff_perm ?_ ?_).2 (hsorted ▸ hperm.map _)
    · rwa [keys_sorted]
    · rwa [keys_sorted]
  | _ => rfl

theorem DistinctKeys.reordered_of_sorted_eq (hv : v.DistinctKeys) (hw : w.DistinctKeys)
    (h : v.sorted = w.sorted) : v.Reordered w := by
  induction hv generalizing w with
  | null => cases hw <;> simp [sorted] at h; exact .null
  | bool b => cases hw <;> simp [sorted] at h; exact h ▸ .bool b
  | int i => cases hw <;> simp [sorted] at h; exact h ▸ .int i
  | float x => cases hw <;> simp [sorted] at h; exact h ▸ .float x
  | text s => cases hw <;> simp [sorted] at h; exact h ▸ .text s
  | @list items _ ih =>
    cases hw with
    | @list items' hw =>
      rw [sorted, sorted, sortedItems_eq_map, sortedItems_eq_map, list.injEq,
        ← List.forall₂_eq_eq_eq, List.forall₂_map_left_iff, List.forall₂_map_right_iff,
        List.forall₂_iff_zip] at h
      refine .list h.1 fun p hp => ?_
      obtain ⟨hleft, hright⟩ := List.of_mem_zip hp
      exact ih p.1 hleft (hw _ hright) (h.2 hp)
    | _ => simp [sorted] at h
  | @object entries hdistinct _ ih =>
    cases hw with
    | @object entries' hdistinct' hw =>
      rw [sorted, sorted, sortedEntries_eq_map, sortedEntries_eq_map, object.injEq,
        Entries.ofList_eq_iff_perm (by rwa [keys_sorted]) (by rwa [keys_sorted])] at h
      obtain ⟨reordered, hperm, hkeys, hvalues⟩ := exists_reordered h
      refine .object hperm hkeys fun p hp => ?_
      obtain ⟨hleft, hright⟩ := List.of_mem_zip hp
      exact ih p.1 (hperm.mem_iff.2 hleft) (hw _ hright) (hvalues p hp)
    | _ => simp [sorted] at h

theorem sorted_eq_iff (hv : v.DistinctKeys) (hw : w.DistinctKeys) :
    v.sorted = w.sorted ↔ v.Reordered w :=
  ⟨hv.reordered_of_sorted_eq hw, fun h => h.sorted_eq hv hw⟩

end Json

/-- The value can be read back from its text: its objects have no key twice, its numbers are integers of
64 bits, and it nests no deeper than is read. -/
structure Json.Plain (v : Json) : Prop where
  distinct : v.DistinctKeys
  integral : v.Integral
  shallow : v.depth ≤ 127

/-- The text is JSON without white space between its tokens, and the keys of its objects ascend. -/
structure Json.Canonical (text : String) : Prop where
  ascending : ∃ d, Document.parse? text = some d ∧ d.AscendingKeys
  compact : Document.Compact text.toList

theorem Json.Plain.readable {v : Json} (h : v.Plain) : v.sorted.Readable Document.greatestDepth :=
  h.integral.readable_sorted h.shallow

theorem Json.Plain.canonical {v : Json} (h : v.Plain) : Canonical v.sorted.write where
  ascending := by
    obtain ⟨d, hwrites, -, hascending⟩ := h.readable.document
    refine ⟨d, ?_, hascending⟩
    rw [Document.parse?, write, String.toList_ofList, hwrites.ofChars?]
  compact := by
    rw [write, String.toList_ofList]
    exact h.integral.tight_sorted.compact

/-- A plain value is encoded as base64 of a canonical text that it is read back from. Plain values have
one encoding exactly when they differ in the order of keys at most. -/
theorem encodeJson_faithful :
    (∀ v : Json, v.Plain → ∃ text, Json.Canonical text ∧
        Base64.Standard (Text.bytes text) (encodeJson v).toList ∧
        Base64.decode? (encodeJson v).toList = some (Text.bytes text) ∧
        ∃ w, Json.parse? text = some w ∧ v.Reordered w) ∧
      ∀ v w : Json, v.Plain → w.Plain → (encodeJson v = encodeJson w ↔ v.Reordered w) := by
  have hsorted : ∀ v : Json, v.Plain → encodeJson v = encodeJson v.sorted := fun v hv => by
    rw [encodeJson, encodeJson, hv.readable.sorted_eq]
  refine ⟨fun v hv => ⟨v.sorted.write, hv.canonical, ?_, ?_, v.sorted, ?_, ?_⟩, fun v w hv hw => ?_⟩
  · have hencode : (encodeJson v).toList = Base64.encode (Text.bytes v.sorted.write) := by
      rw [encodeJson, Base64.ofText, String.toList_ofList]
      rfl
    rw [hencode]
    exact Base64.standard_encode _
  · rw [encodeJson, Base64.ofText_eq_ofBytes, Base64.decode?_ofBytes]
    rfl
  · exact Json.parse?_write hv.readable
  · exact hv.distinct.reordered_of_sorted_eq hv.readable.distinctKeys hv.readable.sorted_eq.symm
  · rw [hsorted v hv, hsorted w hw, StoredMessage.encodeJson_inj hv.readable hw.readable,
      Json.sorted_eq_iff hv.distinct hw.distinct]

def Json.extremes (turned : Bool) : Json :=
  let least := ("a", .list [.int (-9223372036854775808), .text "\"\n é"])
  let greatest := ("b", .int 18446744073709551615)
  .object [("set", .object (if turned then [greatest, least] else [least, greatest]))]

theorem Json.plain_extremes (turned : Bool) : (extremes turned).Plain := by
  have hinteger : isInteger (-9223372036854775808) = true ∧
      isInteger 18446744073709551615 = true := by decide
  refine ⟨?_, ?_, by cases turned <;> decide⟩
  · refine .object (by simp) (List.forall_mem_singleton.2 ?_)
    cases turned
    all_goals
      refine .object (by simp) ?_
      simp [DistinctKeys.int, DistinctKeys.list, DistinctKeys.text]
  · refine .object (List.forall_mem_singleton.2 ?_)
    cases turned
    all_goals
      refine .object ?_
      simp [Integral.int, Integral.list, Integral.text, hinteger]

theorem encodeJson_faithful_extremes :
    (Json.extremes true).Plain ∧ (Json.extremes false).Plain ∧
      encodeJson (Json.extremes true) = encodeJson (Json.extremes false) ∧
      ∃ text, Json.Canonical text ∧
        Base64.decode? (encodeJson (Json.extremes true)).toList = some (Text.bytes text) ∧
        ∃ w, Json.parse? text = some w ∧ (Json.extremes true).Reordered w := by
  have hturned := Json.plain_extremes true
  have hstraight := Json.plain_extremes false
  obtain ⟨text, htext, -, hdecode, hread⟩ := encodeJson_faithful.1 _ hturned
  refine ⟨hturned, hstraight, (encodeJson_faithful.2 _ _ hturned hstraight).2 ?_, text, htext,
    hdecode, hread⟩
  exact (Json.sorted_eq_iff hturned.distinct hstraight.distinct).1 rfl

end Countersign
