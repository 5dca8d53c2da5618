import Countersign.Record
import Countersign.Proofs.JsonValue
import Mathlib

/-!
Typed records read from a document as written, and from the value that the document reads as. A record
that repeats one of its fields is refused as written, where the value has the last entry only; nothing
else tells the two apart.
-/

namespace Countersign

theorem forall₂_lookup {κ α β : Type} [BEq κ] {R : α → β → Prop} {as : List (κ × α)}
    {bs : List (κ × β)} (h : List.Forall₂ (fun a b => a.1 = b.1 ∧ R a.2 b.2) as bs) (key : κ) :
    Option.Rel R (as.lookup key) (bs.lookup key) := by
  induction h with
  | nil => exact .none
  | @cons a b as bs hab _ ih =>
    obtain ⟨k, a⟩ := a
    obtain ⟨k', b⟩ := b
    obtain ⟨rfl, hR⟩ := hab
    rw [List.lookup_cons, List.lookup_cons]
    cases key == k with
    | true => exact .some hR
    | false => exact ih

theorem forall₂_keys {κ α β : Type} {R : α → β → Prop} {as : List (κ × α)} {bs : List (κ × β)}
    (h : List.Forall₂ (fun a b => a.1 = b.1 ∧ R a.2 b.2) as bs) :
    as.map Prod.fst = bs.map Prod.fst := by
  induction h with
  | nil => rfl
  | cons hab _ ih => rw [List.map_cons, List.map_cons, hab.1, ih]

theorem forall₂_zip_left {κ α β : Type} {R : α → β → Prop} (keys : List κ) {as : List α}
    {bs : List β} (h : List.Forall₂ R as bs) :
    List.Forall₂ (fun a b => a.1 = b.1 ∧ R a.2 b.2) (keys.zip as) (keys.zip bs) := by
  induction h generalizing keys with
  | nil => cases keys <;> exact .nil
  | cons hab _ ih =>
    cases keys with
    | nil => exact .nil
    | cons key keys => exact .cons ⟨rfl, hab⟩ (ih keys)

/-! ### Fields of a record -/

namespace Record

variable {α : Type} {names : List String} {entries found : List (String × α)}

theorem Fields.required?_eq {β : Type} (f : Fields α) (name : String) (read : α → Option β) :
    f.required? name read = (f.values.lookup name).elim none read := by
  rw [required?]
  cases f.values.lookup name <;> rfl

theorem Fields.withDefault?_eq {β : Type} (f : Fields α) (name : String) (read : α → Option β)
    (default : β) :
    f.withDefault? name read default = (f.values.lookup name).elim (some default) read := by
  rw [withDefault?]
  cases f.values.lookup name <;> rfl

theorem lookup_knownWith? {aliases : List (String × String)} {name : String}
    (h : known? names aliases entries = some found) (hname : name ∈ names)
    (hsame : ∀ key, (aliases.lookup key).getD key = name ↔ key = name) :
    found.lookup name = entries.lookup name := by
  induction entries generalizing found with
  | nil => cases h; rfl
  | cons e rest ih =>
    obtain ⟨key, v⟩ := e
    obtain ⟨tail, htail, h⟩ := Option.bind_eq_some_iff.1 h
    dsimp only at h
    by_cases hkey : key = name
    · subst hkey
      rw [(hsame key).2 rfl, if_pos hname] at h
      split at h
      · cases h
      · cases h
        rw [List.lookup_cons_self, List.lookup_cons_self]
    · have hne : (name == key) = false := beq_eq_false_iff_ne.2 (Ne.symm hkey)
      have hother : (name == (aliases.lookup key).getD key) = false :=
        beq_eq_false_iff_ne.2 fun heq => hkey ((hsame key).1 heq.symm)
      rw [List.lookup_cons, hne, ← ih htail]
      split at h
      · split at h
        · cases h
        · cases h
          rw [List.lookup_cons, hother]
      · cases h
        rfl

theorem lookup_known? (h : known? names [] entries = some found) {name : String}
    (hname : name ∈ names) : found.lookup name = entries.lookup name :=
  lookup_knownWith? h hname fun _ => Iff.rfl

theorem keys_known? (h : known? names [] entries = some found) :
    found.map Prod.fst = (entries.map Prod.fst).filter (· ∈ names) := by
  induction entries generalizing found with
  | nil => cases h; rfl
  | cons e rest ih =>
    obtain ⟨key, v⟩ := e
    obtain ⟨tail, htail, h⟩ := Option.bind_eq_some_iff.1 h
    dsimp only [List.lookup_nil, Option.getD_none] at h
    rw [List.map_cons]
    split at h
    · next hname =>
      split at h
      · cases h
      · cases h
        rw [List.filter_cons_of_pos (by simpa using hname), List.map_cons, ih htail]
    · next hother =>
      cases h
      rw [List.filter_cons_of_neg (by simpa using hother), ih htail]

theorem exists_known? : (∃ found, known? names [] entries = some found) ↔
    ((entries.map Prod.fst).filter (· ∈ names)).Nodup := by
  induction entries with
  | nil => exact iff_of_true ⟨[], rfl⟩ .nil
  | cons e rest ih =>
    obtain ⟨key, v⟩ := e
    rw [known?]
    dsimp only [List.lookup_nil, Option.getD_none]
    rw [List.map_cons]
    -- the entries after the first are read before it, so it is the first of two that is refused
    cases hrest : known? names [] rest with
    | none =>
      have hnot := mt ih.2 (by simp [hrest])
      refine iff_of_false nofun fun h => hnot ?_
      exact h.sublist ((List.sublist_cons_self _ _).filter _)
    | some tail =>
      have hkeys := keys_known? hrest
      have hnodup := ih.1 ⟨tail, hrest⟩
      by_cases hname : key ∈ names
      · rw [List.filter_cons_of_pos (by simpa using hname), List.nodup_cons, ← hkeys]
        rw [← hkeys] at hnodup
        by_cases htwice : tail.any (·.1 == key)
        · have hmem : key ∈ tail.map Prod.fst := by simpa using htwice
          simp [hname, htwice, hmem]
        · have hmem : key ∉ tail.map Prod.fst := by simpa using htwice
          simp [hname, htwice, hmem, hnodup]
      · rw [List.filter_cons_of_neg (by simpa using hname)]
        simp [hname, hnodup]

end Record

/-! ### Shapes of documents and of values -/

/-- Shapes of one kind, made of what `R` relates. Of repeated keys the last value counts. -/
inductive Shape.Related {α β : Type} (R : α → β → Prop) : Shape α → Shape β → Prop
  | null : Related R .null .null
  | bool (b : Bool) : Related R (.bool b) (.bool b)
  | natural (n : ℕ) : Related R (.natural n) (.natural n)
  | text (s : String) : Related R (.text s) (.text s)
  | list {items : List α} {values : List β} (h : List.Forall₂ R items values) :
      Related R (.list items) (.list values)
  | object {entries : List (String × α)} {values : List (String × β)}
      (h : List.Forall₂ (fun a b => a.1 = b.1 ∧ R a.2 b.2) entries values) :
      Related R (.object entries) (.object (Entries.ofList values))
  | other : Related R .other .other

namespace Document

def ReadsAs (d : Document) (v : Json) : Prop :=
  ∃ depth, d.toJson? depth = some v

variable {d : Document} {v : Json}

theorem mapM_keys {entries : List (Option String × Document)} {es : List (String × Json)}
    {depth : ℕ}
    (h : List.Forall₂ (fun d e => d.1 = some e.1 ∧ toJson? depth d.2 = some e.2) entries es) :
    ∃ named, (entries.mapM fun (key, d) => key.map (·, d)) = some named ∧
      List.Forall₂ (fun a b => a.1 = b.1 ∧ a.2.ReadsAs b.2) named es := by
  induction h with
  | nil => exact ⟨[], rfl, .nil⟩
  | @cons d e entries es hde _ ih =>
    obtain ⟨key, d⟩ := d
    obtain ⟨rfl, hv⟩ : key = some e.1 ∧ d.toJson? depth = some e.2 := hde
    obtain ⟨named, hnamed, hall⟩ := ih
    refine ⟨(e.1, d) :: named, ?_, .cons ⟨rfl, depth, hv⟩ hall⟩
    rw [List.mapM_cons, hnamed]
    rfl

theorem ReadsAs.shape (h : d.ReadsAs v) :
    Shape.Related ReadsAs (Source.shape d) (Source.shape v) := by
  obtain ⟨depth, h⟩ := h
  cases d with
  | null =>
    rw [toJson?] at h
    exact Option.some.inj h ▸ .null
  | bool b =>
    rw [toJson?] at h
    exact Option.some.inj h ▸ .bool b
  | number n =>
    rw [toJson?, Literal.toJson?] at h
    change Shape.Related ReadsAs (Document.shape (.number n)) v.shape
    rw [Document.shape]
    cases hn : n.integer? with
    | none =>
      rw [hn] at h
      obtain ⟨x, -, rfl⟩ := Option.map_eq_some_iff.1 h
      exact .other
    | some i =>
      rw [hn] at h
      cases h
      rw [Json.shape]
      by_cases hi : 0 ≤ i
      · simp only [hi, if_true]
        exact .natural i.toNat
      · simp only [hi, if_false]
        exact .other
  | text s =>
    rw [toJson?] at h
    obtain ⟨s, rfl, rfl⟩ := Option.map_eq_some_iff.1 h
    exact .text s
  | list items =>
    obtain ⟨inner, vs, rfl, hvs, rfl⟩ := toJson?_list.1 h
    exact .list (hvs.imp fun d v hv => ⟨inner, hv⟩)
  | object entries =>
    obtain ⟨inner, es, rfl, hes, rfl⟩ := toJson?_object.1 h
    obtain ⟨named, hnamed, hall⟩ := mapM_keys hes
    change Shape.Related ReadsAs (Document.shape (.object entries)) _
    rw [Document.shape, hnamed]
    exact .object hall

end Document

/-! ### Readers of documents and of values -/

namespace Record

section

variable {α : Type} [Source α]

def items (v : α) : List α :=
  match Source.shape v with
  | .list items => items
  | _ => []

def repeats (names : List String) (v : α) : Bool :=
  match Source.shape v with
  | .object entries => ¬((entries.map Prod.fst).filter (· ∈ names)).Nodup
  | _ => false

def field? (names : List String) (name : String) (v : α) : Option α :=
  match Source.shape v with
  | .object entries => entries.lookup name
  | .list items => (names.zip items).lookup name
  | _ => none

theorem lookup_fields? {names : List String} {v : α} {f : Fields α} (h : fields? names v = some f)
    {name : String} (hname : name ∈ names) : f.values.lookup name = field? names name v := by
  rw [fields?, fieldsWith?] at h
  rw [field?]
  cases hshape : Source.shape v with
  | object entries =>
    simp only [hshape] at h
    obtain ⟨found, hfound, rfl⟩ := Option.map_eq_some_iff.1 h
    exact lookup_known? hfound hname
  | list items =>
    simp only [hshape] at h
    split at h
    · cases h
      rfl
    · cases h
  | _ =>
    simp only [hshape] at h
    cases h

theorem fields?_of_repeats {names : List String} {v : α} (h : repeats names v = true) :
    fields? names v = none := by
  rw [repeats] at h
  rw [fields?, fieldsWith?]
  cases hshape : Source.shape v with
  | object entries =>
    simp only [hshape] at h
    have hnone : known? names [] entries = none := by
      by_contra hsome
      have hnodup := exists_known?.1 (Option.ne_none_iff_exists'.1 hsome)
      simp [hnodup] at h
    simp only [hnone, Option.map_none]
  | _ =>
    simp only [hshape] at h
    cases h

end

variable {β : Type} {names : List String} {d : Document} {v : Json}

theorem fields?_related (h : d.ReadsAs v) (hd : repeats names d = false) :
    Option.Rel (fun f g => ∀ name ∈ names,
        Option.Rel Document.ReadsAs (f.values.lookup name) (g.values.lookup name))
      (fields? names d) (fields? names v) := by
  have hshape := h.shape
  rw [repeats] at hd
  rw [fields?, fieldsWith?, fields?, fieldsWith?]
  generalize Source.shape d = s at hshape hd
  generalize Source.shape v = s' at hshape
  cases hshape with
  | list hitems =>
    dsimp only
    rw [hitems.length_eq]
    split
    · exact .some fun name _ => forall₂_lookup (forall₂_zip_left names hitems) name
    · exact .none
  | @object entries values hentries =>
    have hkeys : entries.map Prod.fst = values.map Prod.fst := forall₂_keys hentries
    have hnodup : ((values.map Prod.fst).filter (· ∈ names)).Nodup := by
      rw [← hkeys]
      simpa using hd
    have hsorted : (((Entries.ofList values).map Prod.fst).filter (· ∈ names)).Nodup :=
      (Entries.nodup_keys_ofList values).sublist List.filter_sublist
    obtain ⟨found, hfound⟩ := exists_known?.2 (hkeys ▸ hnodup)
    obtain ⟨last, hlast⟩ := exists_known?.2 hsorted
    simp only [hfound, hlast, Option.map_some]
    refine .some fun name hname => ?_
    -- the value keeps the last entry of each key, and a field has no other one
    have hsingle : (values.map Prod.fst).count name ≤ 1 := by
      rw [← List.count_filter (p := (· ∈ names)) (by simpa using hname)]
      exact List.nodup_iff_count_le_one.1 hnodup name
    rw [lookup_known? hfound hname, lookup_known? hlast hname,
      Entries.lookup_ofList_of_single hsingle]
    exact forall₂_lookup hentries name
  | _ => exact .none

/-- The reader refuses a document that is `bad`, and reads any other like the value it reads as. -/
def Agrees (bad : Document → Bool) (read : Document → Option β) (read' : Json → Option β) : Prop :=
  ∀ d v, d.ReadsAs v → read d = if bad d then none else read' v

theorem agrees_text : Agrees (fun _ => false) text? text? := by
  intro d v h
  have hshape := h.shape
  simp only [text?]
  generalize Source.shape d = s at hshape
  generalize Source.shape v = s' at hshape
  cases hshape <;> rfl

theorem agrees_word32 : Agrees (fun _ => false) word32? word32? := by
  intro d v h
  have hshape := h.shape
  simp only [word32?, below?]
  generalize Source.shape d = s at hshape
  generalize Source.shape v = s' at hshape
  cases hshape <;> rfl

theorem Agrees.nullable {read : Document → Option β} {read' : Json → Option β}
    (hread : Agrees (fun _ => false) read read') :
    Agrees (fun _ => false) (nullable? read) (nullable? read') := by
  intro d v h
  have hshape := h.shape
  have heq : read d = read' v := hread d v h
  simp only [nullable?, heq]
  generalize Source.shape d = s at hshape
  generalize Source.shape v = s' at hshape
  cases hshape <;> rfl

theorem Agrees.mapM {bad : Document → Bool} {read : Document → Option β} {read' : Json → Option β}
    (hread : Agrees bad read read') {ds : List Document} {vs : List Json}
    (h : List.Forall₂ Document.ReadsAs ds vs) :
    ds.mapM read = if ds.any bad then none else vs.mapM read' := by
  induction h with
  | nil => rfl
  | @cons d v ds vs hdv _ ih =>
    rw [List.mapM_cons, List.mapM_cons, ih, hread d v hdv, List.any_cons]
    cases bad d with
    | true => rfl
    | false =>
      cases ds.any bad with
      | true => simp
      | false => rfl

theorem Agrees.list {bad : Document → Bool} {read : Document → Option β} {read' : Json → Option β}
    (hread : Agrees bad read read') :
    Agrees (fun d => (items d).any bad) (list? read) (list? read') := by
  intro d v h
  have hshape := h.shape
  generalize hs : Source.shape d = s at hshape
  generalize hs' : Source.shape v = s' at hshape
  simp only [list?, items, hs, hs']
  cases hshape with
  | list hitems => exact hread.mapM hitems
  | _ => rfl

section

variable {bad : Document → Bool} {read : Document → Option β} {read' : Json → Option β}

theorem Agrees.entry (hread : Agrees bad read read') {d? : Option Document} {v? : Option Json}
    (h : Option.Rel Document.ReadsAs d? v?) (missing : Option β) :
    d?.elim missing read = if d?.any bad then none else v?.elim missing read' := by
  cases h with
  | none => rfl
  | some hdv => exact hread _ _ hdv

variable {name : String} {f : Fields Document} {g : Fields Json}

theorem Agrees.required (hread : Agrees bad read read')
    (hfield : Option.Rel Document.ReadsAs (f.values.lookup name) (g.values.lookup name)) :
    f.required? name read =
      if (f.values.lookup name).any bad then none else g.required? name read' := by
  rw [Fields.required?_eq, Fields.required?_eq]
  exact hread.entry hfield none

theorem Agrees.withDefault (hread : Agrees bad read read')
    (hfield : Option.Rel Document.ReadsAs (f.values.lookup name) (g.values.lookup name))
    (default : β) : f.withDefault? name read default =
      if (f.values.lookup name).any bad then none else g.withDefault? name read' default := by
  rw [Fields.withDefault?_eq, Fields.withDefault?_eq]
  exact hread.entry hfield (some default)

end

theorem Agrees.record {nested : Document → Bool} {build : Fields Document → Option β}
    {build' : Fields Json → Option β}
    (h : ∀ d f g, (∀ name ∈ names, f.values.lookup name = field? names name d) →
      (∀ name ∈ names,
        Option.Rel Document.ReadsAs (f.values.lookup name) (g.values.lookup name)) →
      build f = if nested d then none else build' g) :
    Agrees (fun d => repeats names d || nested d) (fun d => (fields? names d).bind build)
      (fun v => (fields? names v).bind build') := by
  intro d v hdv
  change (fields? names d).bind build =
    if repeats names d || nested d then none else (fields? names v).bind build'
  cases hd : repeats names d with
  | true => rw [fields?_of_repeats hd, Option.bind_none, Bool.true_or, if_pos rfl]
  | false =>
    rw [Bool.false_or]
    have hrelated := fields?_related hdv hd
    rcases hf : fields? names d with _ | f <;> rcases hg : fields? names v with _ | g <;>
      rw [hf, hg] at hrelated
    · exact (ite_self _).symm
    · cases hrelated
    · cases hrelated
    · cases hrelated with
      | some hfields => exact h d f g (fun _ hname => lookup_fields? hf hname) hfields

end Record
end Countersign
