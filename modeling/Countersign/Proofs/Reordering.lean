import Countersign.Proofs.JsonValue
import Mathlib

/-!
Values and documents that differ in the order of object keys at most. Documents also differ in their
numbers, as far as a relation between literals allows.
-/

namespace Countersign

theorem eq_of_zip {α : Type} {as bs : List α} (hlen : as.length = bs.length)
    (h : ∀ p ∈ as.zip bs, p.1 = p.2) : as = bs := by
  have : List.Forall₂ Eq as bs := List.forall₂_iff_zip.2 ⟨hlen, fun hp => h _ hp⟩
  rwa [List.forall₂_eq_eq_eq] at this

theorem zip_self {α : Type} {as : List α} {p : α × α} (h : p ∈ as.zip as) :
    p.1 = p.2 ∧ p.1 ∈ as := by
  induction as with
  | nil => cases h
  | cons a as ih =>
    rw [List.zip_cons_cons] at h
    rcases List.mem_cons.1 h with rfl | h
    · exact ⟨rfl, List.mem_cons_self⟩
    · exact (ih h).imp_right (List.mem_cons_of_mem _)

theorem zip_key {κ α β : Type} {as : List (κ × α)} {bs : List (κ × β)}
    (h : as.map Prod.fst = bs.map Prod.fst) {p : (κ × α) × (κ × β)} (hp : p ∈ as.zip bs) :
    p.1.1 = p.2.1 := by
  have hzip : (p.1.1, p.2.1) ∈ (as.map Prod.fst).zip (bs.map Prod.fst) := by
    rw [List.zip_map]
    exact List.mem_map_of_mem hp
  rw [h] at hzip
  exact (zip_self hzip).1

namespace Json

inductive Reordered : Json → Json → Prop
  | null : Reordered .null .null
  | bool (b : Bool) : Reordered (.bool b) (.bool b)
  | int (i : ℤ) : Reordered (.int i) (.int i)
  | float (x : Decimal.Binary64) : Reordered (.float x) (.float x)
  | text (s : String) : Reordered (.text s) (.text s)
  | list {items items' : List Json} (hlen : items.length = items'.length)
      (h : ∀ p ∈ items.zip items', Reordered p.1 p.2) : Reordered (.list items) (.list items')
  | object {entries reordered entries' : List (String × Json)} (hperm : entries.Perm reordered)
      (hkeys : reordered.map Prod.fst = entries'.map Prod.fst)
      (h : ∀ p ∈ reordered.zip entries', Reordered p.1.2 p.2.2) :
      Reordered (.object entries) (.object entries')

theorem Readable.reordered_self {depth : ℕ} {v : Json} (h : Readable depth v) : Reordered v v := by
  induction h with
  | null => exact .null
  | bool b => exact .bool b
  | @int _ i _ => exact .int i
  | @float _ x _ => exact .float x
  | text s => exact .text s
  | list _ ih =>
    refine .list rfl fun p hp => ?_
    obtain ⟨heq, hmem⟩ := zip_self hp
    exact heq ▸ ih p.1 hmem
  | object _ _ ih =>
    refine .object (.refl _) rfl fun p hp => ?_
    obtain ⟨heq, hmem⟩ := zip_self hp
    exact heq ▸ ih p.1 hmem

theorem Reordered.eq {v w : Json} (h : Reordered v w) {depth depth' : ℕ} (hv : Readable depth v)
    (hw : Readable depth' w) : v = w := by
  induction h generalizing depth depth' with
  | list hlen _ ih =>
    cases hv with | list hv =>
    cases hw with | list hw =>
    rw [eq_of_zip hlen fun p hp =>
      ih p hp (hv _ (List.of_mem_zip hp).1) (hw _ (List.of_mem_zip hp).2)]
  | @object entries reordered entries' hperm hkeys _ ih =>
    cases hv with | object hascending hv =>
    cases hw with | object hascending' hw =>
    -- both have the keys in the one ascending order, so nothing was moved
    have hsorted : reordered.Pairwise (·.1 < ·.1) := by
      have := List.pairwise_map.2 hascending'
      rw [← hkeys] at this
      exact List.pairwise_map.1 this
    obtain rfl := Entries.eq_of_ascending hperm hascending hsorted
    have hlen : entries.length = entries'.length := by
      simpa using congrArg List.length hkeys
    have hkey : ∀ p ∈ entries.zip entries', p.1.1 = p.2.1 := fun p hp => zip_key hkeys hp
    rw [eq_of_zip hlen fun p hp => Prod.ext (hkey p hp)
      (ih p hp (hv _ (List.of_mem_zip hp).1) (hw _ (List.of_mem_zip hp).2))]
  | _ => rfl

end Json

namespace Literal

def exact (n : Literal) : ℚ :=
  (if n.negative then -1 else 1) * n.significand * 10 ^ n.exponent

def SameValue (n m : Literal) : Prop :=
  n.exact = m.exact

/-- Both are read as the same number, or neither can be read. -/
def ReadAlike (n m : Literal) : Prop :=
  n.toJson? = m.toJson?

def Written (n : Literal) : Prop :=
  n.plain = true → n.exponent = 0

theorem exact_of_integer? {n : Literal} {i : ℤ} (hn : n.Written) (h : n.integer? = some i) :
    n.exact = i := by
  rw [integer?] at h
  split at h
  · cases h
  next hplain =>
  have hexp : n.exponent = 0 := hn (by simpa using hplain)
  rw [exact, hexp, zpow_zero, mul_one]
  split at h
  · next hneg =>
    split at h
    · obtain rfl := Option.some.inj h
      simp [hneg]
    · cases h
  · next hneg =>
    split at h
    · obtain rfl := Option.some.inj h
      simp [hneg]
    · cases h

theorem toJson?_number {n : Literal} {v : Json} (h : n.toJson? = some v) :
    (∃ i, v = .int i) ∨ ∃ x, v = .float x := by
  rw [toJson?] at h
  split at h
  · exact .inl ⟨_, (Option.some.inj h).symm⟩
  · obtain ⟨x, -, rfl⟩ := Option.map_eq_some_iff.1 h
    exact .inr ⟨x, rfl⟩

theorem toJson?_eq_int {n : Literal} {i : ℤ} : n.toJson? = some (.int i) ↔ n.integer? = some i := by
  rw [toJson?]
  cases n.integer? <;> simp

theorem ReadAlike.sameValue {n m : Literal} (h : n.ReadAlike m) (hn : n.Written) (hm : m.Written)
    (hint : n.integer?.isSome) : n.SameValue m := by
  obtain ⟨i, hi⟩ := Option.isSome_iff_exists.1 hint
  have hread := toJson?_eq_int.2 hi
  rw [h] at hread
  rw [SameValue, exact_of_integer? hn hi, exact_of_integer? hm (toJson?_eq_int.1 hread)]

end Literal

namespace Document

/-- The same document up to the order of keys, with numbers that `R` relates. -/
inductive Alike (R : Literal → Literal → Prop) : Document → Document → Prop
  | null : Alike R .null .null
  | bool (b : Bool) : Alike R (.bool b) (.bool b)
  | number {n m : Literal} (h : R n m) : Alike R (.number n) (.number m)
  | text (s : Option String) : Alike R (.text s) (.text s)
  | list {items items' : List Document} (hlen : items.length = items'.length)
      (h : ∀ p ∈ items.zip items', Alike R p.1 p.2) : Alike R (.list items) (.list items')
  | object {entries reordered entries' : List (Option String × Document)}
      (hperm : entries.Perm reordered) (hkeys : reordered.map Prod.fst = entries'.map Prod.fst)
      (h : ∀ p ∈ reordered.zip entries', Alike R p.1.2 p.2.2) :
      Alike R (.object entries) (.object entries')

inductive Each (P : Literal → Prop) : Document → Prop
  | null : Each P .null
  | bool (b : Bool) : Each P (.bool b)
  | number {n : Literal} (h : P n) : Each P (.number n)
  | text (s : Option String) : Each P (.text s)
  | list {items : List Document} (h : ∀ d ∈ items, Each P d) : Each P (.list items)
  | object {entries : List (Option String × Document)} (h : ∀ e ∈ entries, Each P e.2) :
      Each P (.object entries)

inductive DistinctKeys : Document → Prop
  | null : DistinctKeys .null
  | bool (b : Bool) : DistinctKeys (.bool b)
  | number (n : Literal) : DistinctKeys (.number n)
  | text (s : Option String) : DistinctKeys (.text s)
  | list {items : List Document} (h : ∀ d ∈ items, DistinctKeys d) : DistinctKeys (.list items)
  | object {entries : List (Option String × Document)} (hkeys : (entries.filterMap Prod.fst).Nodup)
      (h : ∀ e ∈ entries, DistinctKeys e.2) : DistinctKeys (.object entries)

variable {R : Literal → Literal → Prop} {d d' : Document}

theorem alike_self (hR : ∀ n, R n n) (d : Document) : Alike R d d := by
  induction d using induct with
  | null => exact .null
  | bool b => exact .bool b
  | number n => exact .number (hR n)
  | text s => exact .text s
  | list items ih =>
    refine .list rfl fun p hp => ?_
    obtain ⟨heq, hmem⟩ := zip_self hp
    exact heq ▸ ih p.1 hmem
  | object entries ih =>
    refine .object (.refl _) rfl fun p hp => ?_
    obtain ⟨heq, hmem⟩ := zip_self hp
    exact heq ▸ ih p.1 hmem

theorem Alike.sameValue (h : Alike Literal.ReadAlike d d') (hd : d.Each Literal.Written)
    (hd' : d'.Each Literal.Written) (hint : d.Each (·.integer?.isSome)) :
    Alike Literal.SameValue d d' := by
  induction h with
  | null => exact .null
  | bool b => exact .bool b
  | number h =>
    cases hd with | number hd =>
    cases hd' with | number hd' =>
    cases hint with | number hint =>
    exact .number (h.sameValue hd hd' hint)
  | text s => exact .text s
  | list hlen _ ih =>
    cases hd with | list hd =>
    cases hd' with | list hd' =>
    cases hint with | list hint =>
    refine .list hlen fun p hp => ?_
    obtain ⟨hleft, hright⟩ := List.of_mem_zip hp
    exact ih p hp (hd _ hleft) (hd' _ hright) (hint _ hleft)
  | object hperm hkeys _ ih =>
    cases hd with | object hd =>
    cases hd' with | object hd' =>
    cases hint with | object hint =>
    refine .object hperm hkeys fun p hp => ?_
    obtain ⟨hleft, hright⟩ := List.of_mem_zip hp
    have hleft := hperm.mem_iff.2 hleft
    exact ih p hp (hd _ hleft) (hd' _ hright) (hint _ hleft)

/-! ### Alike documents read as the same value -/

theorem forall₂_zip {α β : Type} {as : List α} {bs : List β} (hlen : as.length = bs.length) :
    List.Forall₂ (fun a b => (a, b) ∈ as.zip bs) as bs :=
  List.forall₂_iff_zip.2 ⟨hlen, fun h => h⟩

theorem forall₂_join {α β γ : Type} {R : α → β → Prop} {S : α → γ → Prop} {T : β → γ → Prop}
    {as : List α} {bs : List β} {cs : List γ} (hR : List.Forall₂ R as bs)
    (hS : List.Forall₂ S as cs) (h : ∀ a b c, R a b → S a c → T b c) : List.Forall₂ T bs cs := by
  induction hR generalizing cs with
  | nil => cases hS; exact .nil
  | cons hab _ ih =>
    cases hS with
    | cons hac hS => exact .cons (h _ _ _ hab hac) (ih hS)

variable {depth : ℕ} {v : Json}

theorem keys_of_forall₂ {entries : List (Option String × Document)} {es : List (String × Json)}
    (h : List.Forall₂ (fun d e => d.1 = some e.1 ∧ toJson? depth d.2 = some e.2) entries es) :
    entries.map Prod.fst = es.map (some ∘ Prod.fst) := by
  induction h with
  | nil => rfl
  | cons he _ ih => rw [List.map_cons, List.map_cons, ih, he.1]; rfl

theorem nodup_of_forall₂ {entries : List (Option String × Document)} {es : List (String × Json)}
    (hkeys : (entries.filterMap Prod.fst).Nodup)
    (h : List.Forall₂ (fun d e => d.1 = some e.1 ∧ toJson? depth d.2 = some e.2) entries es) :
    (es.map Prod.fst).Nodup :=
  filterMap_of_forall₂ h ▸ hkeys

theorem Alike.toJson? (h : Alike Literal.ReadAlike d d') (hd : d.DistinctKeys)
    (hd' : d'.DistinctKeys) (hv : d.toJson? depth = some v) : d'.toJson? depth = some v := by
  induction h generalizing depth v with
  | number h =>
    rw [Document.toJson?] at hv ⊢
    rwa [← h]
  | list hlen _ ih =>
    cases hd with | list hd =>
    cases hd' with | list hd' =>
    obtain ⟨inner, vs, rfl, hvs, rfl⟩ := toJson?_list.1 hv
    refine toJson?_list.2 ⟨inner, vs, rfl, ?_, rfl⟩
    refine forall₂_join (forall₂_zip hlen) hvs fun a b w hab haw => ?_
    obtain ⟨ha, hb⟩ := List.of_mem_zip hab
    exact ih (a, b) hab (hd a ha) (hd' b hb) haw
  | @object entries reordered entries' hperm hkeys _ ih =>
    cases hd with | object hdistinct hd =>
    cases hd' with | object hdistinct' hd' =>
    obtain ⟨inner, es, rfl, hes, rfl⟩ := toJson?_object.1 hv
    have hlen : reordered.length = entries'.length := by
      simpa using congrArg List.length hkeys
    -- the values follow their keys into the other order
    obtain ⟨fs, hfs, hperm'⟩ := List.perm_comp_forall₂ hperm.symm hes
    have hfs' : List.Forall₂ (fun d e => d.1 = some e.1 ∧ Document.toJson? inner d.2 = some e.2)
        entries' fs := by
      refine forall₂_join (forall₂_zip hlen) hfs fun a b e hab hae => ?_
      obtain ⟨ha, hb⟩ := List.of_mem_zip hab
      have ha := hperm.mem_iff.2 ha
      exact ⟨(zip_key hkeys hab).symm.trans hae.1, ih (a, b) hab (hd a ha) (hd' b hb) hae.2⟩
    refine toJson?_object.2 ⟨inner, fs, rfl, hfs', ?_⟩
    rw [Json.ofEntries, Json.ofEntries, (Entries.ofList_eq_iff_perm (nodup_of_forall₂ hdistinct hes)
      (nodup_of_forall₂ hdistinct' hfs')).2 hperm'.symm]
  | _ => exact hv

theorem toJson?_inversion (h : d.toJson? depth = some v) : match v with
    | .null => d = .null
    | .bool b => d = .bool b
    | .int i => ∃ n, d = .number n ∧ n.toJson? = some (.int i)
    | .float x => ∃ n, d = .number n ∧ n.toJson? = some (.float x)
    | .text s => d = .text (some s)
    | .list vs => ∃ inner items, depth = inner + 1 ∧ d = .list items ∧
        List.Forall₂ (fun d v => d.toJson? inner = some v) items vs
    | .object sorted => ∃ inner entries es, depth = inner + 1 ∧ d = .object entries ∧
        List.Forall₂ (fun d e => d.1 = some e.1 ∧ d.2.toJson? inner = some e.2) entries es ∧
        sorted = Entries.ofList es := by
  cases d with
  | null =>
    rw [Document.toJson?] at h
    obtain rfl := Option.some.inj h
    rfl
  | bool b =>
    rw [Document.toJson?] at h
    obtain rfl := Option.some.inj h
    rfl
  | number n =>
    rw [Document.toJson?] at h
    obtain ⟨i, rfl⟩ | ⟨x, rfl⟩ := Literal.toJson?_number h
    · exact ⟨n, rfl, h⟩
    · exact ⟨n, rfl, h⟩
  | text s =>
    rw [Document.toJson?] at h
    obtain ⟨s, rfl, rfl⟩ := Option.map_eq_some_iff.1 h
    rfl
  | list items =>
    obtain ⟨inner, vs, rfl, hvs, rfl⟩ := toJson?_list.1 h
    exact ⟨inner, items, rfl, rfl, hvs⟩
  | object entries =>
    obtain ⟨inner, es, rfl, hes, rfl⟩ := toJson?_object.1 h
    exact ⟨inner, entries, es, rfl, rfl, hes, rfl⟩

theorem alike_of_toJson? (hd : d.DistinctKeys) (hd' : d'.DistinctKeys)
    (hv : d.toJson? depth = some v) (hv' : d'.toJson? depth = some v) :
    Alike Literal.ReadAlike d d' := by
  induction d using induct generalizing d' depth v with
  | null =>
    rw [Document.toJson?] at hv
    obtain rfl := Option.some.inj hv
    obtain rfl : d' = .null := toJson?_inversion hv'
    exact .null
  | bool b =>
    rw [Document.toJson?] at hv
    obtain rfl := Option.some.inj hv
    obtain rfl : d' = .bool b := toJson?_inversion hv'
    exact .bool b
  | number n =>
    rw [Document.toJson?] at hv
    obtain ⟨i, rfl⟩ | ⟨x, rfl⟩ := Literal.toJson?_number hv
    · obtain ⟨m, rfl, hm⟩ := toJson?_inversion hv'
      exact .number (hv.trans hm.symm)
    · obtain ⟨m, rfl, hm⟩ := toJson?_inversion hv'
      exact .number (hv.trans hm.symm)
  | text s =>
    rw [Document.toJson?] at hv
    obtain ⟨s, rfl, rfl⟩ := Option.map_eq_some_iff.1 hv
    obtain rfl : d' = .text (some s) := toJson?_inversion hv'
    exact .text (some s)
  | list items ih =>
    cases hd with | list hd =>
    obtain ⟨inner, vs, rfl, hvs, rfl⟩ := toJson?_list.1 hv
    obtain ⟨_, items', ⟨⟩, rfl, hvs'⟩ := toJson?_inversion hv'
    cases hd' with | list hd' =>
    obtain ⟨hlen, hzip⟩ := List.forall₂_iff_zip.1 (forall₂_join (T := fun a b =>
      ∃ w, a.toJson? inner = some w ∧ b.toJson? inner = some w) hvs.flip hvs'.flip
      fun w _ _ ha hb => ⟨w, ha, hb⟩)
    refine .list hlen fun p hp => ?_
    obtain ⟨w, hw, hw'⟩ := hzip hp
    obtain ⟨hleft, hright⟩ := List.of_mem_zip hp
    exact ih p.1 hleft (hd _ hleft) (hd' _ hright) hw hw'
  | object entries ih =>
    cases hd with | object hdistinct hd =>
    obtain ⟨inner, es, rfl, hes, rfl⟩ := toJson?_object.1 hv
    obtain ⟨_, entries', fs, ⟨⟩, rfl, hfs, hsorted⟩ := toJson?_inversion hv'
    cases hd' with | object hdistinct' hd' =>
    -- without repeated keys nothing is overwritten, so the entries read are rearranged at most
    have hperm := (Entries.ofList_eq_iff_perm (nodup_of_forall₂ hdistinct hes)
      (nodup_of_forall₂ hdistinct' hfs)).1 hsorted
    obtain ⟨reordered, hreordered, hentries⟩ := List.perm_comp_forall₂ hperm.symm hes.flip
    have hkeys : reordered.map Prod.fst = entries'.map Prod.fst := by
      rw [keys_of_forall₂ hreordered.flip, keys_of_forall₂ hfs]
    obtain ⟨hlen, hzip⟩ := List.forall₂_iff_zip.1 (forall₂_join (T := fun a b =>
      ∃ w, a.2.toJson? inner = some w ∧ b.2.toJson? inner = some w) hreordered hfs.flip
      fun e _ _ ha hb => ⟨e.2, ha.2, hb.2⟩)
    refine .object hentries.symm hkeys fun p hp => ?_
    obtain ⟨w, hw, hw'⟩ := hzip hp
    obtain ⟨hleft, hright⟩ := List.of_mem_zip hp
    have hleft := hentries.mem_iff.1 hleft
    exact ih p.1 hleft (hd _ hleft) (hd' _ hright) hw hw'

end Document

end Countersign
