import Countersign.Json.Reader
import Countersign.Proofs.Entries
import Countersign.Proofs.Rounding
import Mathlib

/-! The values that documents read as. -/

namespace Countersign

theorem exists_left_of_mem {α β : Type} {R : α → β → Prop} {as : List α} {bs : List β}
    (h : List.Forall₂ R as bs) {b : β} (hb : b ∈ bs) : ∃ a ∈ as, R a b := by
  obtain ⟨i, hi, rfl⟩ := List.getElem_of_mem hb
  have hi' : i < as.length := h.length_eq ▸ hi
  exact ⟨as[i], List.getElem_mem hi', h.get hi' hi⟩

namespace Json

/-- Values within `depth` more lists and objects, with numbers in range and keys in ascending
order. -/
inductive Readable : ℕ → Json → Prop
  | null {depth : ℕ} : Readable depth .null
  | bool {depth : ℕ} (b : Bool) : Readable depth (.bool b)
  | int {depth : ℕ} {i : ℤ} (h : isInteger i = true) : Readable depth (.int i)
  | float {depth : ℕ} {x : Decimal.Binary64} (h : x.WellFormed) : Readable depth (.float x)
  | text {depth : ℕ} (s : String) : Readable depth (.text s)
  | list {depth : ℕ} {items : List Json} (h : ∀ v ∈ items, Readable depth v) :
      Readable (depth + 1) (.list items)
  | object {depth : ℕ} {entries : List (String × Json)} (hkeys : entries.Pairwise (·.1 < ·.1))
      (h : ∀ e ∈ entries, Readable depth e.2) : Readable (depth + 1) (.object entries)

end Json

namespace Document

@[elab_as_elim]
theorem induct {motive : Document → Prop} (null : motive .null) (bool : ∀ b, motive (.bool b))
    (number : ∀ n, motive (.number n)) (text : ∀ s, motive (.text s))
    (list : ∀ items : List Document, (∀ d ∈ items, motive d) → motive (.list items))
    (object : ∀ entries : List (Option String × Document), (∀ e ∈ entries, motive e.2) →
      motive (.object entries)) (d : Document) : motive d :=
  @Document.rec motive (fun items => ∀ d ∈ items, motive d)
    (fun entries => ∀ e ∈ entries, motive e.2) (fun e => motive e.2) null bool number text list
    object (by simp) (by simp +contextual) (by simp) (by simp +contextual) (fun _ _ h => h) d

theorem itemsToJson?_eq_some {depth : ℕ} {ds : List Document} {vs : List Json} :
    itemsToJson? depth ds = some vs ↔ List.Forall₂ (fun d v => toJson? depth d = some v) ds vs := by
  induction ds generalizing vs with
  | nil =>
    rw [itemsToJson?, List.forall₂_nil_left_iff, Option.some.injEq, eq_comm]
  | cons d ds ih =>
    rw [itemsToJson?, List.forall₂_cons_left_iff]
    simp only [← ih, Option.bind_eq_bind, Option.bind_eq_some_iff]
    constructor
    · rintro ⟨v, hv, ws, hws, hvs⟩
      exact ⟨v, ws, hv, hws, (Option.some.inj hvs).symm⟩
    · rintro ⟨v, ws, hv, hws, rfl⟩
      exact ⟨v, hv, ws, hws, rfl⟩

theorem entriesToJson?_eq_some {depth : ℕ} {ds : List (Option String × Document)}
    {es : List (String × Json)} : entriesToJson? depth ds = some es ↔
      List.Forall₂ (fun d e => d.1 = some e.1 ∧ toJson? depth d.2 = some e.2) ds es := by
  induction ds generalizing es with
  | nil =>
    rw [entriesToJson?, List.forall₂_nil_left_iff, Option.some.injEq, eq_comm]
  | cons d ds ih =>
    obtain ⟨key, d⟩ := d
    rw [entriesToJson?, List.forall₂_cons_left_iff]
    simp only [← ih, Option.bind_eq_bind, Option.bind_eq_some_iff]
    constructor
    · rintro ⟨k, hk, v, hv, fs, hfs, hes⟩
      exact ⟨(k, v), fs, ⟨hk, hv⟩, hfs, (Option.some.inj hes).symm⟩
    · rintro ⟨⟨k, v⟩, fs, ⟨hk, hv⟩, hfs, rfl⟩
      exact ⟨k, hk, v, hv, fs, hfs, rfl⟩

theorem filterMap_of_forall₂ {depth : ℕ} {entries : List (Option String × Document)}
    {es : List (String × Json)}
    (h : List.Forall₂ (fun d e => d.1 = some e.1 ∧ toJson? depth d.2 = some e.2) entries es) :
    entries.filterMap Prod.fst = es.map Prod.fst := by
  induction h with
  | nil => rfl
  | cons he _ ih => rw [List.filterMap_cons_some he.1, List.map_cons, ih]

theorem toJson?_list {depth : ℕ} {items : List Document} {v : Json} :
    toJson? depth (.list items) = some v ↔ ∃ inner vs, depth = inner + 1 ∧
      List.Forall₂ (fun d v => toJson? inner d = some v) items vs ∧ v = .list vs := by
  cases depth with
  | zero => simp [toJson?]
  | succ inner =>
    simp only [toJson?, Option.map_eq_some_iff, itemsToJson?_eq_some]
    constructor
    · rintro ⟨vs, hvs, rfl⟩
      exact ⟨inner, vs, rfl, hvs, rfl⟩
    · rintro ⟨_, vs, ⟨⟩, hvs, rfl⟩
      exact ⟨vs, hvs, rfl⟩

theorem toJson?_object {depth : ℕ} {entries : List (Option String × Document)} {v : Json} :
    toJson? depth (.object entries) = some v ↔ ∃ inner es, depth = inner + 1 ∧
      List.Forall₂ (fun d e => d.1 = some e.1 ∧ toJson? inner d.2 = some e.2) entries es ∧
      v = .ofEntries es := by
  cases depth with
  | zero => simp [toJson?]
  | succ inner =>
    simp only [toJson?, Option.map_eq_some_iff, entriesToJson?_eq_some]
    constructor
    · rintro ⟨es, hes, rfl⟩
      exact ⟨inner, es, rfl, hes, rfl⟩
    · rintro ⟨_, es, ⟨⟩, hes, rfl⟩
      exact ⟨es, hes, rfl⟩

theorem toJson?_number_readable (depth : ℕ) {n : Literal} {v : Json} (h : n.toJson? = some v) :
    Json.Readable depth v := by
  rw [Literal.toJson?] at h
  split at h
  · next i hi =>
    obtain rfl := Option.some.inj h
    apply Json.Readable.int
    rw [Literal.integer?] at hi
    simp only [Json.isInteger, Bool.and_eq_true, decide_eq_true_eq]
    split_ifs at hi <;> obtain rfl := Option.some.inj hi <;> omega
  · obtain ⟨x, hx, rfl⟩ := Option.map_eq_some_iff.1 h
    exact .float (Decimal.Binary64.ofDecimal?_wellFormed hx)

theorem toJson?_readable {depth : ℕ} {d : Document} {v : Json} (h : d.toJson? depth = some v) :
    v.Readable depth := by
  induction d using induct generalizing depth v with
  | null =>
    rw [toJson?] at h
    exact Option.some.inj h ▸ .null
  | bool b =>
    rw [toJson?] at h
    exact Option.some.inj h ▸ .bool b
  | number n =>
    rw [toJson?] at h
    exact toJson?_number_readable depth h
  | text s =>
    rw [toJson?] at h
    obtain ⟨s, -, rfl⟩ := Option.map_eq_some_iff.1 h
    exact .text s
  | list items ih =>
    obtain ⟨inner, vs, rfl, hvs, rfl⟩ := toJson?_list.1 h
    apply Json.Readable.list
    intro v hv
    obtain ⟨d, hd, hdv⟩ := exists_left_of_mem hvs hv
    exact ih d hd hdv
  | object entries ih =>
    obtain ⟨inner, es, rfl, hes, rfl⟩ := toJson?_object.1 h
    refine .object (Entries.ascending_ofList es) fun e he => ?_
    obtain ⟨d, hd, -, hdv⟩ := exists_left_of_mem hes (Entries.mem_ofList he)
    exact ih d hd hdv

theorem toJson?_mono {m n : ℕ} (hmn : m ≤ n) {d : Document} {v : Json}
    (h : d.toJson? m = some v) : d.toJson? n = some v := by
  induction d using induct generalizing m n v with
  | null => rwa [toJson?] at h ⊢
  | bool b => rwa [toJson?] at h ⊢
  | number x => rwa [toJson?] at h ⊢
  | text s => rwa [toJson?] at h ⊢
  | list items ih =>
    obtain ⟨inner, vs, rfl, hvs, rfl⟩ := toJson?_list.1 h
    obtain ⟨k, rfl⟩ := Nat.exists_eq_add_one_of_ne_zero (show n ≠ 0 by omega)
    have hitems := (List.forall₂_and_left items vs).2 ⟨ih, hvs⟩
    exact toJson?_list.2 ⟨k, vs, rfl, hitems.imp fun d v h => h.1 (by omega) h.2, rfl⟩
  | object entries ih =>
    obtain ⟨inner, es, rfl, hes, rfl⟩ := toJson?_object.1 h
    obtain ⟨k, rfl⟩ := Nat.exists_eq_add_one_of_ne_zero (show n ≠ 0 by omega)
    have hentries := (List.forall₂_and_left entries es).2 ⟨ih, hes⟩
    exact toJson?_object.2
      ⟨k, es, rfl, hentries.imp fun d e h => ⟨h.2.1, h.1 (by omega) h.2.2⟩, rfl⟩

end Document

namespace Json

theorem parse?_readable {s : String} {v : Json} (h : parse? s = some v) :
    v.Readable Document.greatestDepth := by
  obtain ⟨d, -, hd⟩ := Option.bind_eq_some_iff.1 h
  exact Document.toJson?_readable hd

theorem sortedItems_eq_map (items : List Json) : sortedItems items = items.map sorted := by
  induction items with
  | nil => rfl
  | cons v rest ih => rw [sortedItems, ih, List.map_cons]

theorem sortedEntries_eq_map (entries : List (String × Json)) :
    sortedEntries entries = entries.map fun e => (e.1, e.2.sorted) := by
  induction entries with
  | nil => rfl
  | cons e rest ih => rw [sortedEntries, ih, List.map_cons]

theorem Readable.sorted_eq {depth : ℕ} {v : Json} (h : Readable depth v) : v.sorted = v := by
  induction h with
  | list _ ih =>
    rw [sorted, sortedItems_eq_map, List.map_congr_left ih, List.map_id']
  | @object depth entries hkeys _ ih =>
    have hentries : entries.map (fun e => (e.1, e.2.sorted)) = entries := by
      rw [List.map_congr_left fun e he => by rw [ih e he], List.map_id']
    rw [sorted, sortedEntries_eq_map, hentries, Entries.ofList_eq_self hkeys]
  | _ => rw [sorted] <;> simp

end Json

end Countersign
