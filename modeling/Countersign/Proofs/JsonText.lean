import Countersign.Proofs.ByteOrder
import Countersign.Proofs.JsonValue
import Countersign.Proofs.NumberText
import Countersign.Proofs.Reordering
import Mathlib

/-! The text of a value reads as that value. In the text the keys of every object ascend. -/

namespace Countersign

namespace Document

variable {cs rest : List Char}

/-! ### Texts -/

theorem hexDigit?_digitChar : ∀ n < 16, Text.hexDigit? (Nat.digitChar n) = some n := by decide

theorem unit?_control {n : ℕ} (hn : n < 32) :
    unit? '0' '0' (Nat.digitChar (n / 16)) (Nat.digitChar (n % 16)) = some n := by
  have hzero : Text.hexDigit? '0' = some 0 := rfl
  rw [unit?, hzero, hexDigit?_digitChar (n / 16) (by omega),
    hexDigit?_digitChar (n % 16) (by omega)]
  simp only [Option.bind_eq_bind, Option.bind_some]
  congr 1
  omega

theorem pieces?_named {e c : Char} (he : e ≠ 'u') (hc : unescape? e = some c) (rest : List Char) :
    pieces? ('\\' :: e :: rest) = (pieces? rest).map fun r => (.char c :: r.1, r.2) := by
  rw [pieces?, hc]
  · cases pieces? rest <;> rfl
  · exact fun _ _ _ _ _ h _ => he h

theorem pieces?_escapeChar (c : Char) : ∃ p : Piece,
    (∀ rest, pieces? (Json.escapeChar c ++ rest) = (pieces? rest).map fun r => (p :: r.1, r.2)) ∧
      ∀ ps, resolve? (p :: ps) = (resolve? ps).map (c :: ·) := by
  have hchar : ∀ ps, resolve? (.char c :: ps) = (resolve? ps).map (c :: ·) := fun ps => by
    rw [resolve?]
  unfold Json.escapeChar
  split
  · exact ⟨_, pieces?_named (by decide) rfl, hchar⟩
  · exact ⟨_, pieces?_named (by decide) rfl, hchar⟩
  · exact ⟨_, pieces?_named (by decide) rfl, hchar⟩
  · exact ⟨_, pieces?_named (by decide) rfl, hchar⟩
  · exact ⟨_, pieces?_named (by decide) rfl, hchar⟩
  · exact ⟨_, pieces?_named (by decide) rfl, hchar⟩
  · exact ⟨_, pieces?_named (by decide) rfl, hchar⟩
  next hquote hslash _ _ _ _ _ =>
  split
  · next hcontrol =>
    have hlt : c.toNat < 32 := hcontrol
    refine ⟨.unit c.toNat, fun rest => ?_, fun ps => ?_⟩
    · simp only [List.cons_append, List.nil_append]
      rw [pieces?, unit?_control hlt]
      cases pieces? rest <;> rfl
    · -- a control character is no half of a pair, so its unit stands alone
      have hhigh : isHigh c.toNat = false := by
        simp [isHigh]
        omega
      have hlow : isLow c.toNat = false := by
        simp [isLow]
        omega
      rw [resolve?.eq_def]
      simp [hhigh, hlow]
  · next hprint =>
    refine ⟨.char c, fun rest => ?_, hchar⟩
    rw [List.singleton_append, pieces?, if_neg hprint]
    · cases pieces? rest <;> rfl
    · exact hquote
    · exact fun _ _ _ _ _ h _ => hslash h
    · exact fun _ _ h _ => hslash h

theorem text?_write (s : String) (rest : List Char) :
    text? (s.toList.flatMap Json.escapeChar ++ '"' :: rest) = some (some s, rest) := by
  have hpieces : ∀ cs : List Char, ∃ ps, resolve? ps = some cs ∧
      pieces? (cs.flatMap Json.escapeChar ++ '"' :: rest) = some (ps, rest) := by
    intro cs
    induction cs with
    | nil => exact ⟨[], by rw [resolve?], by rw [List.flatMap_nil, List.nil_append, pieces?]⟩
    | cons c cs ih =>
      obtain ⟨ps, hresolve, hread⟩ := ih
      obtain ⟨p, hescape, hstands⟩ := pieces?_escapeChar c
      refine ⟨p :: ps, by rw [hstands, hresolve]; rfl, ?_⟩
      rw [List.flatMap_cons, List.append_assoc, hescape, hread]
      rfl
  obtain ⟨ps, hresolve, hread⟩ := hpieces s.toList
  rw [text?, hread, Option.map_some]
  dsimp only
  rw [hresolve, Option.map_some, String.ofList_toList]

/-! ### Where values start -/

theorem skipSpace_cons {c : Char} (hc : isSpace c = false) (cs : List Char) :
    skipSpace (c :: cs) = c :: cs := by
  rw [skipSpace, List.dropWhile_cons, hc]
  rfl

def Starts (cs : List Char) : Prop :=
  ∃ c, cs.head? = some c ∧ isSpace c = false ∧ c ≠ ']'

theorem Starts.skipSpace (h : Starts cs) (rest : List Char) :
    skipSpace (cs ++ rest) = cs ++ rest := by
  obtain ⟨c, hc, hspace, -⟩ := h
  cases cs with
  | nil => cases hc
  | cons d cs =>
    obtain rfl := Option.some.inj hc
    exact skipSpace_cons hspace _

theorem digit_printing {c : Char} (hc : c.isDigit = true) : isSpace c = false ∧ c ≠ ']' := by
  constructor
  · by_contra hspace
    simp only [isSpace, Bool.not_eq_false, Bool.or_eq_true, beq_iff_eq] at hspace
    rcases hspace with ((rfl | rfl) | rfl) | rfl <;> cases hc
  · rintro rfl
    cases hc

theorem Numeric.starts (h : Numeric cs) : Starts cs := by
  obtain ⟨c, hc, rfl | hdigit⟩ := h
  · exact ⟨'-', hc, rfl, by decide⟩
  · exact ⟨c, hc, digit_printing hdigit⟩

theorem Numeric.value? (h : Numeric cs) (fuel : ℕ) :
    value? (fuel + 1) (cs ++ rest) = (number? (cs ++ rest)).map fun r => (.number r.1, r.2) := by
  obtain ⟨c, hc, h⟩ := h
  cases cs with
  | nil => cases hc
  | cons d cs =>
    obtain rfl := Option.some.inj hc
    rw [List.cons_append, Document.value?]
    all_goals
      intro cs' heq
      obtain rfl := (List.cons.inj heq).1
      rcases h with h | h <;> cases h

/-! ### Lists and objects -/

/-- `d` is the document of the text, for every depth and whatever closes it. -/
structure Writes (cs : List Char) (d : Document) : Prop where
  starts : Starts cs
  read : ∀ fuel rest, cs.length < fuel → Closed rest →
    Document.value? fuel (cs ++ rest) = some (d, rest)

/-- There is fuel for at least one step, and the characters left are as many as the fuel left. -/
theorem writes_of_step {cs : List Char} {d : Document} (hstarts : Starts cs)
    (h : ∀ fuel rest, cs.length ≤ fuel → Closed rest →
      Document.value? (fuel + 1) (cs ++ rest) = some (d, rest)) : Writes cs d := by
  refine ⟨hstarts, fun fuel rest hfuel hrest => ?_⟩
  obtain ⟨m, rfl⟩ := Nat.exists_eq_add_one_of_ne_zero (Nat.ne_zero_of_lt hfuel)
  exact h m rest (Nat.lt_succ_iff.1 hfuel) hrest

theorem closed_cons {c : Char} (hc : c = ',' ∨ c = ']' ∨ c = '}') (cs : List Char) :
    Closed (c :: cs) := by
  rintro d ⟨⟩
  exact hc

structure WritesEntry (cs : List Char) (e : Option String × Document) : Prop where
  quoted : cs.head? = some '"'
  read : ∀ fuel rest, cs.length < fuel → Closed rest →
    entry? (Document.value? fuel) (cs ++ rest) = some (e, rest)

def joined (close : Char) : List (List Char) → List Char
  | [] => [close]
  | [cs] => cs ++ [close]
  | cs :: next :: texts => cs ++ ',' :: joined close (next :: texts)

theorem joined_append (close : Char) (cs : List Char) (texts : List (List Char)) :
    ∃ tail, joined close (cs :: texts) = cs ++ tail := by
  cases texts with
  | nil => exact ⟨[close], rfl⟩
  | cons text texts => exact ⟨_, rfl⟩

/-- Every item costs at least the comma or bracket behind it, so the length of the text bounds how
many are left to read. -/
theorem items?_joined {texts : List (List Char)} {ds : List Document} (fuel : ℕ) {n : ℕ}
    (h : List.Forall₂ Writes texts ds) (hne : texts ≠ []) (hfuel : (joined ']' texts).length ≤ fuel)
    (hn : (joined ']' texts).length ≤ n) (rest : List Char) :
    items? (Document.value? fuel) n (joined ']' texts ++ rest) = some (ds, rest) := by
  induction h generalizing n with
  | nil => exact absurd rfl hne
  | @cons cs d texts ds hd htail ih =>
    cases htail with
    | nil =>
      rw [joined] at hfuel hn ⊢
      rw [List.length_append, List.length_singleton] at hfuel hn
      obtain ⟨m, rfl⟩ := Nat.exists_eq_add_one_of_ne_zero (show n ≠ 0 by omega)
      rw [items?, List.append_assoc, List.singleton_append, hd.starts.skipSpace,
        hd.read fuel _ (by omega) (closed_cons (by simp) rest)]
      rfl
    | cons he htail =>
      rw [joined] at hfuel hn ⊢
      rw [List.length_append, List.length_cons] at hfuel hn
      obtain ⟨m, rfl⟩ := Nat.exists_eq_add_one_of_ne_zero (show n ≠ 0 by omega)
      have hread := ih (n := m) (by simp) (by omega) (by omega)
      rw [items?, List.append_assoc, List.cons_append, hd.starts.skipSpace,
        hd.read fuel _ (by omega) (closed_cons (by simp) _)]
      simp only [Option.bind_eq_bind, Option.bind_some]
      rw [skipSpace_cons rfl]
      simp only [hread, Option.bind_some]
      rfl

theorem entries?_joined {texts : List (List Char)} {es : List (Option String × Document)} (fuel : ℕ)
    {n : ℕ} (h : List.Forall₂ WritesEntry texts es) (hne : texts ≠ [])
    (hfuel : (joined '}' texts).length ≤ fuel) (hn : (joined '}' texts).length ≤ n)
    (rest : List Char) :
    entries? (Document.value? fuel) n (joined '}' texts ++ rest) = some (es, rest) := by
  induction h generalizing n with
  | nil => exact absurd rfl hne
  | @cons cs e texts es he htail ih =>
    cases htail with
    | nil =>
      rw [joined] at hfuel hn ⊢
      rw [List.length_append, List.length_singleton] at hfuel hn
      obtain ⟨m, rfl⟩ := Nat.exists_eq_add_one_of_ne_zero (show n ≠ 0 by omega)
      rw [entries?, List.append_assoc, List.singleton_append,
        he.read fuel _ (by omega) (closed_cons (by simp) rest)]
      rfl
    | cons hf htail =>
      rw [joined] at hfuel hn ⊢
      rw [List.length_append, List.length_cons] at hfuel hn
      obtain ⟨m, rfl⟩ := Nat.exists_eq_add_one_of_ne_zero (show n ≠ 0 by omega)
      have hread := ih (n := m) (by simp) (by omega) (by omega)
      rw [entries?, List.append_assoc, List.cons_append,
        he.read fuel _ (by omega) (closed_cons (by simp) _)]
      simp only [Option.bind_eq_bind, Option.bind_some]
      rw [skipSpace_cons rfl]
      simp only [hread, Option.bind_some]
      rfl

theorem writesEntry (k : String) {cs : List Char} {d : Document} (hd : Writes cs d) :
    WritesEntry (Json.textChars k ++ ':' :: cs) (some k, d) := by
  refine ⟨rfl, fun fuel rest hfuel hrest => ?_⟩
  rw [List.length_append, List.length_cons] at hfuel
  have htext := text?_write k (':' :: (cs ++ rest))
  unfold entry? Json.textChars
  simp only [List.append_assoc, List.cons_append, List.nil_append]
  rw [skipSpace_cons rfl]
  simp only [Option.bind_eq_bind, htext, Option.bind_some]
  rw [skipSpace_cons rfl]
  simp only [hd.starts.skipSpace, hd.read fuel rest (by omega) hrest, Option.bind_some]
  rfl

theorem writes_null : Writes ['n', 'u', 'l', 'l'] .null := by
  refine writes_of_step ⟨'n', rfl, rfl, by decide⟩ fun fuel rest _ _ => ?_
  change Document.value? (fuel + 1) ('n' :: 'u' :: 'l' :: 'l' :: rest) = _
  rw [Document.value?]

theorem writes_bool (b : Bool) : Writes (Json.bool b).chars (.bool b) := by
  cases b with
  | true =>
    rw [Json.chars]
    refine writes_of_step ⟨'t', rfl, rfl, by decide⟩ fun fuel rest _ _ => ?_
    change Document.value? (fuel + 1) ('t' :: 'r' :: 'u' :: 'e' :: rest) = _
    rw [Document.value?]
  | false =>
    rw [Json.chars]
    refine writes_of_step ⟨'f', rfl, rfl, by decide⟩ fun fuel rest _ _ => ?_
    change Document.value? (fuel + 1) ('f' :: 'a' :: 'l' :: 's' :: 'e' :: rest) = _
    rw [Document.value?]

theorem writes_number {cs : List Char} {n : Literal} (hnumeric : Numeric cs)
    (hread : ∀ rest, Closed rest → number? (cs ++ rest) = some (n, rest)) :
    Writes cs (.number n) := by
  refine writes_of_step hnumeric.starts fun fuel rest _ hrest => ?_
  rw [hnumeric.value?, hread rest hrest]
  rfl

theorem writes_text (s : String) : Writes (Json.textChars s) (.text (some s)) := by
  refine writes_of_step ⟨'"', rfl, rfl, by decide⟩ fun fuel rest _ _ => ?_
  rw [Json.textChars, List.append_assoc, List.singleton_append, List.cons_append,
    Document.value?, text?_write]
  rfl

theorem value?_list {cs : List Char} (h : Starts cs) (rest : List Char) (fuel : ℕ) :
    Document.value? (fuel + 1) ('[' :: (cs ++ rest))
      = (items? (Document.value? fuel) (cs ++ rest).length (cs ++ rest)).map
          fun r => (.list r.1, r.2) := by
  rw [Document.value?, h.skipSpace]
  obtain ⟨c, hc, -, hend⟩ := h
  cases cs with
  | nil => cases hc
  | cons d cs =>
    obtain rfl := Option.some.inj hc
    rw [List.cons_append]
    split
    · next heq => exact absurd (List.cons.inj heq).1 hend
    · rfl

theorem writes_list {texts : List (List Char)} {ds : List Document}
    (h : List.Forall₂ Writes texts ds) : Writes ('[' :: joined ']' texts) (.list ds) := by
  refine writes_of_step ⟨'[', rfl, rfl, by decide⟩ fun fuel rest hfuel _ => ?_
  rw [List.length_cons] at hfuel
  cases texts with
  | nil =>
    obtain rfl := List.forall₂_nil_left_iff.1 h
    rw [joined, List.cons_append, Document.value?]
    rfl
  | cons cs texts =>
    have hread := items?_joined fuel (n := (joined ']' (cs :: texts) ++ rest).length) h
      (by simp) (by omega) (by simp) rest
    obtain ⟨tail, htail⟩ := joined_append ']' cs texts
    obtain ⟨d, -, hd, -⟩ := List.forall₂_cons_left_iff.1 h
    rw [htail, List.append_assoc] at hread
    rw [List.cons_append, htail, List.append_assoc, value?_list hd.starts, hread]
    rfl

theorem value?_object {cs : List Char} (h : cs.head? = some '"') (rest : List Char) (fuel : ℕ) :
    Document.value? (fuel + 1) ('\x7b' :: (cs ++ rest))
      = (entries? (Document.value? fuel) (cs ++ rest).length (cs ++ rest)).map
          fun r => (.object r.1, r.2) := by
  cases cs with
  | nil => cases h
  | cons c cs =>
    obtain rfl := Option.some.inj h
    rw [Document.value?, List.cons_append, skipSpace_cons rfl]
    rfl

theorem writes_object {texts : List (List Char)} {es : List (Option String × Document)}
    (h : List.Forall₂ WritesEntry texts es) : Writes ('\x7b' :: joined '}' texts) (.object es) := by
  refine writes_of_step ⟨'\x7b', rfl, rfl, by decide⟩ fun fuel rest hfuel _ => ?_
  rw [List.length_cons] at hfuel
  cases texts with
  | nil =>
    obtain rfl := List.forall₂_nil_left_iff.1 h
    rw [joined, List.cons_append, Document.value?]
    rfl
  | cons cs texts =>
    have hread := entries?_joined fuel (n := (joined '}' (cs :: texts) ++ rest).length) h
      (by simp) (by omega) (by simp) rest
    obtain ⟨tail, htail⟩ := joined_append '}' cs texts
    obtain ⟨e, -, he, -⟩ := List.forall₂_cons_left_iff.1 h
    rw [htail, List.append_assoc] at hread
    rw [List.cons_append, htail, List.append_assoc, value?_object he.quoted, hread]
    rfl

theorem Writes.ofChars? {cs : List Char} {d : Document} (h : Writes cs d) :
    ofChars? cs = some d := by
  have hread := h.read (cs.length + 1) [] (Nat.lt_succ_self _) closed_nil
  have hstart := h.starts.skipSpace []
  rw [List.append_nil] at hread hstart
  rw [Document.ofChars?, hstart, hread]
  rfl

inductive AscendingKeys : Document → Prop
  | null : AscendingKeys .null
  | bool (b : Bool) : AscendingKeys (.bool b)
  | number (n : Literal) : AscendingKeys (.number n)
  | text (s : Option String) : AscendingKeys (.text s)
  | list {items : List Document} (h : ∀ d ∈ items, AscendingKeys d) : AscendingKeys (.list items)
  | object {entries : List (Option String × Document)} {keys : List String}
      (hkeys : entries.map Prod.fst = keys.map some)
      (hascending : keys.Pairwise fun k l => Text.bytes k < Text.bytes l)
      (h : ∀ e ∈ entries, AscendingKeys e.2) : AscendingKeys (.object entries)

theorem AscendingKeys.distinctKeys {d : Document} (h : d.AscendingKeys) : d.DistinctKeys := by
  induction h with
  | null => exact .null
  | bool b => exact .bool b
  | number n => exact .number n
  | text s => exact .text s
  | list _ ih => exact .list ih
  | @object entries keys hkeys hascending _ ih =>
    refine .object ?_ ih
    have hfound : entries.filterMap Prod.fst = keys := by
      have hmap : (entries.map Prod.fst).filterMap id = entries.filterMap Prod.fst :=
        List.filterMap_map
      rw [← hmap, hkeys]
      simp
    rw [hfound]
    exact hascending.imp fun {k l} hlt (heq : k = l) => List.lt_irrefl _ (heq ▸ hlt)

end Document

theorem exists_forall₂ {α β : Type} {R : α → β → Prop} {as : List α} (h : ∀ a ∈ as, ∃ b, R a b) :
    ∃ bs, List.Forall₂ R as bs := by
  induction as with
  | nil => exact ⟨[], .nil⟩
  | cons a as ih =>
    obtain ⟨b, hb⟩ := h a (by simp)
    obtain ⟨bs, hbs⟩ := ih fun c hc => h c (by simp [hc])
    exact ⟨b :: bs, .cons hb hbs⟩

namespace Json

open Document

theorem itemsChars_eq (items : List Json) : itemsChars items = joined ']' (items.map chars) := by
  induction items with
  | nil => rw [itemsChars, List.map_nil, joined]
  | cons v items ih =>
    cases items with
    | nil => rw [itemsChars, List.map_cons, List.map_nil, joined]
    | cons w items =>
      rw [List.map_cons, List.map_cons, joined, ← List.map_cons, ← ih]
      simp [itemsChars]

theorem entriesChars_eq (entries : List (String × Json)) : entriesChars entries
    = joined '}' (entries.map fun e => textChars e.1 ++ ':' :: e.2.chars) := by
  induction entries with
  | nil => rw [entriesChars, List.map_nil, joined]
  | cons e entries ih =>
    cases entries with
    | nil => simp [entriesChars, joined]
    | cons f entries =>
      rw [List.map_cons, List.map_cons, joined, ← List.map_cons (f := fun e : String × Json =>
        textChars e.1 ++ ':' :: e.2.chars), ← ih]
      simp [entriesChars]

/-- A readable value has a document that its text writes, with the keys of every object in order, and
that reads as the value. -/
theorem Readable.document {depth : ℕ} {v : Json} (h : Readable depth v) :
    ∃ d, Writes v.chars d ∧ d.toJson? depth = some v ∧ d.AscendingKeys := by
  induction h with
  | null => exact ⟨.null, by rw [chars]; exact writes_null, by rw [toJson?], .null⟩
  | bool b => exact ⟨.bool b, writes_bool b, by rw [toJson?], .bool b⟩
  | int h =>
    obtain ⟨n, hread, hvalue, hnumeric⟩ := number?_int h
    refine ⟨.number n, ?_, by rw [toJson?, hvalue], .number n⟩
    rw [chars]
    exact writes_number hnumeric hread
  | float h =>
    obtain ⟨n, hread, hvalue, hnumeric⟩ := number?_float h
    refine ⟨.number n, ?_, by rw [toJson?, hvalue], .number n⟩
    rw [chars]
    exact writes_number hnumeric hread
  | text s =>
    exact ⟨.text (some s), by rw [chars]; exact writes_text s, by rw [toJson?]; rfl, .text (some s)⟩
  | list _ ih =>
    obtain ⟨ds, hds⟩ := exists_forall₂ ih
    refine ⟨.list ds, ?_, ?_, .list fun d hd => ?_⟩
    · rw [chars, itemsChars_eq]
      exact writes_list (List.forall₂_map_left_iff.2 (hds.imp fun _ _ h => h.1))
    · rw [toJson?, itemsToJson?_eq_some.2 (hds.flip.imp fun _ _ h => h.2.1)]
      rfl
    · obtain ⟨v, -, -, -, hascending⟩ := exists_left_of_mem hds hd
      exact hascending
  | @object depth entries hkeys _ ih =>
    have hentries : ∀ e ∈ entries, ∃ d : Option String × Document,
        WritesEntry (textChars e.1 ++ ':' :: e.2.chars) d ∧
          (d.1 = some e.1 ∧ d.2.toJson? depth = some e.2) ∧ d.2.AscendingKeys := by
      intro e he
      obtain ⟨d, hwrites, hvalue, hascending⟩ := ih e he
      exact ⟨(some e.1, d), writesEntry e.1 hwrites, ⟨rfl, hvalue⟩, hascending⟩
    obtain ⟨es, hes⟩ := exists_forall₂ hentries
    have hvalues := hes.flip.imp fun _ _ h => h.2.1
    have hnames : es.map Prod.fst = (entries.map Prod.fst).map some := by
      rw [keys_of_forall₂ hvalues, List.map_map]
    have hbytes : (entries.map Prod.fst).Pairwise fun k k' => Text.bytes k < Text.bytes k' :=
      (List.pairwise_map.2 hkeys).imp Text.bytes_lt_bytes.2
    refine ⟨.object es, ?_, ?_, .object hnames hbytes fun d hd => ?_⟩
    · rw [chars, entriesChars_eq]
      exact writes_object (List.forall₂_map_left_iff.2 (hes.imp fun _ _ h => h.1))
    · rw [toJson?, entriesToJson?_eq_some.2 hvalues, Option.map_some, ofEntries,
        Entries.ofList_eq_self hkeys]
    · obtain ⟨e, -, -, -, hascending⟩ := exists_left_of_mem hes hd
      exact hascending

theorem parse?_write {v : Json} (h : Readable greatestDepth v) : parse? v.write = some v := by
  obtain ⟨d, hwrites, hvalue, -⟩ := h.document
  rw [parse?, write, String.toList_ofList, ofChars?, hwrites.ofChars?]
  exact hvalue

theorem parse?_write_eq_none {depth : ℕ} {v : Json} (h : Readable depth v)
    (hdeep : ¬Readable greatestDepth v) : parse? v.write = none := by
  obtain ⟨d, hwrites, hvalue, -⟩ := h.document
  rw [parse?, write, String.toList_ofList, ofChars?, hwrites.ofChars?, Option.bind_some]
  rw [Option.eq_none_iff_forall_ne_some]
  intro w hw
  refine hdeep ?_
  have hsame : v = w := by
    rcases le_total depth greatestDepth with hle | hle
    · exact Option.some.inj ((toJson?_mono hle hvalue).symm.trans hw)
    · exact Option.some.inj (hvalue.symm.trans (toJson?_mono hle hw))
  exact hsame ▸ toJson?_readable hw

end Json

end Countersign
