import Countersign.Receipt.Group
import Mathlib

/-! What a group holds of the events it was made from. Each of its views is read off the list of events
directly, in the order of the list: nothing is lost, added or moved. -/

namespace Countersign

theorem eraseDups_concat {α : Type} [DecidableEq α] (as : List α) (a : α) :
    (as ++ [a]).eraseDups = if a ∈ as then as.eraseDups else as.eraseDups ++ [a] := by
  rw [List.eraseDups_append, List.removeAll]
  by_cases ha : a ∈ as
  · simp [ha]
  · have hnew : [a].filter (fun b => !as.elem b) = [a] := by simpa using ha
    rw [hnew, if_neg ha, List.eraseDups_cons]
    rfl

namespace Keyed

variable {α γ : Type}

theorem keys_foldl {step : Keyed α → γ → Keyed α} {key : γ → String}
    (hstep : ∀ m c, keys (step m c) = if key c ∈ keys m then keys m else keys m ++ [key c])
    (cs : List γ) : keys (cs.foldl step []) = (cs.map key).eraseDups := by
  induction cs using List.reverseRecOn with
  | nil => rfl
  | append_singleton cs c ih =>
    rw [List.foldl_append, List.foldl_cons, List.foldl_nil, hstep, ih, List.map_append,
      List.map_cons, List.map_nil, eraseDups_concat]
    simp only [List.mem_eraseDups]

theorem contains_eq_true {m : Keyed α} {key : String} : m.contains key = true ↔ key ∈ m.keys := by
  simp [contains, keys]

def total (size : α → ℕ) (m : Keyed α) : ℕ :=
  (m.map fun e => size e.2).sum

theorem total_alter (size : α → ℕ) {fresh : α} {change : α → α} {n : ℕ} (hfresh : size fresh = 0)
    (hchange : ∀ v, size (change v) = size v + n) (key : String) (m : Keyed α) :
    (m.alter key fresh change).total size = m.total size + n := by
  induction m with
  | nil => simp [alter, total, hchange, hfresh]
  | cons e rest ih =>
    obtain ⟨k, v⟩ := e
    rw [alter]
    split
    · simp only [total, List.map_cons, List.sum_cons, hchange]
      omega
    · simp only [total, List.map_cons, List.sum_cons] at ih ⊢
      omega

end Keyed

/-! ### Attributes by key -/

def Attribute.valuesOf (key : String) (attributes : List Attribute) : List String :=
  (attributes.filter fun a => a.key = key).map Attribute.value

theorem Attribute.valuesOf_eq_nil {key : String} {attributes : List Attribute}
    (h : key ∉ attributes.map Attribute.key) : valuesOf key attributes = [] := by
  refine List.map_eq_nil_iff.2 (List.filter_eq_nil_iff.2 fun a ha hkey => ?_)
  exact h (of_decide_eq_true hkey ▸ List.mem_map_of_mem ha)

theorem Attribute.valuesOf_flatMap (key : String) (events : List Event) :
    valuesOf key (events.flatMap Event.attributes) =
      events.flatMap fun e => valuesOf key e.attributes := by
  rw [valuesOf, List.filter_flatMap, List.map_flatMap]
  rfl

namespace Attributes

def ofList (attributes : List Attribute) : Attributes :=
  attributes.foldl (fun attrs a => attrs.push a.key a.value) []

theorem ofList_concat (attributes : List Attribute) (a : Attribute) :
    ofList (attributes ++ [a]) = (ofList attributes).push a.key a.value := by
  rw [ofList, List.foldl_append, List.foldl_cons, List.foldl_nil, ofList]

theorem grouped_ofList (e : Event) (attributes : List Attribute) :
    e.grouped (ofList attributes) = ofList (attributes ++ e.attributes) := by
  rw [Event.grouped, ofList, ofList, List.foldl_append]

theorem keys_ofList (attributes : List Attribute) :
    (ofList attributes).keys = (attributes.map Attribute.key).eraseDups :=
  Keyed.keys_foldl (fun attrs a => attrs.keys_alter a.key [] (· ++ [a.value])) attributes

theorem get?_ofList (key : String) (attributes : List Attribute) :
    (ofList attributes).get? key =
      if key ∈ attributes.map Attribute.key then some (Attribute.valuesOf key attributes)
      else none := by
  induction attributes using List.reverseRecOn with
  | nil => rfl
  | append_singleton attributes a ih =>
    rw [ofList_concat, Keyed.push]
    by_cases ha : a.key = key
    · have hold : ((ofList attributes).get? key).getD [] = Attribute.valuesOf key attributes := by
        rw [ih]
        split
        · rfl
        · next hnew => exact (Attribute.valuesOf_eq_nil hnew).symm
      rw [ha, Keyed.get?_alter_self, hold, if_pos (by simp [ha])]
      simp [Attribute.valuesOf, ha]
    · rw [Keyed.get?_alter_of_ne (Ne.symm ha), ih]
      simp [Attribute.valuesOf, ha, Ne.symm ha]

theorem getD_ofList (key : String) (attributes : List Attribute) :
    ((ofList attributes).get? key).getD [] = Attribute.valuesOf key attributes := by
  rw [get?_ofList]
  split
  · rfl
  · next hnone => exact (Attribute.valuesOf_eq_nil hnone).symm

theorem total_grouped (e : Event) (attrs : Attributes) :
    (e.grouped attrs).total List.length = attrs.total List.length + e.attributes.length := by
  have hfold : ∀ (attributes : List Attribute) (attrs : Attributes),
      (attributes.foldl (fun attrs a => attrs.push a.key a.value) attrs).total List.length =
        attrs.total List.length + attributes.length := by
    intro attributes
    induction attributes with
    | nil => exact fun _ => rfl
    | cons a attributes ih =>
      intro attrs
      have hpush : (attrs.push a.key a.value).total List.length = attrs.total List.length + 1 :=
        Keyed.total_alter List.length rfl (fun values => by simp) a.key attrs
      rw [List.foldl_cons, ih, hpush, List.length_cons]
      omega
  exact hfold e.attributes attrs

end Attributes

/-! ### Events by type -/

def Event.ofKind (kind : String) (events : List Event) : List Event :=
  events.filter fun e => e.kind = kind

theorem Event.ofKind_eq_nil {kind : String} {events : List Event}
    (h : kind ∉ events.map Event.kind) : ofKind kind events = [] := by
  refine List.filter_eq_nil_iff.2 fun e he hkind => ?_
  exact h (of_decide_eq_true hkind ▸ List.mem_map_of_mem he)

namespace EventGroup

variable {events : List Event}

theorem merged_ofEvents (events : List Event) :
    (ofEvents events).merged = events.foldl (fun m e => Keyed.alter e.kind [] e.grouped m) [] := by
  induction events using List.reverseRecOn with
  | nil => rfl
  | append_singleton events e ih =>
    rw [ofEvents_concat, List.foldl_append, List.foldl_cons, List.foldl_nil, ← ih, push]

theorem kinds_ofEvents (events : List Event) :
    (ofEvents events).kinds = (events.map Event.kind).eraseDups := by
  rw [kinds, merged_ofEvents]
  exact Keyed.keys_foldl (fun m e => m.keys_alter e.kind [] e.grouped) events

theorem occurrences_ofEvents (kind : String) (events : List Event) :
    (ofEvents events).occurrences kind =
      (Event.ofKind kind events).map fun e => Attributes.ofList e.attributes := by
  induction events using List.reverseRecOn with
  | nil => rfl
  | append_singleton events e ih =>
    rw [ofEvents_concat, occurrences_push, ih, Event.ofKind, Event.ofKind, List.filter_append,
      List.map_append]
    by_cases he : e.kind = kind
    · simp [he, Event.grouped, Attributes.ofList]
    · simp [he]

theorem event?_ofEvents (kind : String) (events : List Event) :
    (ofEvents events).event? kind = if kind ∈ events.map Event.kind then
      some (Attributes.ofList ((Event.ofKind kind events).flatMap Event.attributes)) else none := by
  induction events using List.reverseRecOn with
  | nil => rfl
  | append_singleton events e ih =>
    rw [ofEvents_concat, event?, push]
    rw [event?] at ih
    by_cases he : e.kind = kind
    · have hold : ((ofEvents events).merged.get? kind).getD [] =
          Attributes.ofList ((Event.ofKind kind events).flatMap Event.attributes) := by
        rw [ih]
        split
        · rfl
        · next hnew =>
          rw [Event.ofKind_eq_nil hnew]
          rfl
      rw [he, Keyed.get?_alter_self, hold, Attributes.grouped_ofList, if_pos (by simp [he])]
      simp [Event.ofKind, he]
    · rw [Keyed.get?_alter_of_ne (Ne.symm he), ih]
      simp [Event.ofKind, he, Ne.symm he]

theorem values_ofEvents (kind key : String) (events : List Event) :
    (ofEvents events).values kind key =
      (Event.ofKind kind events).flatMap fun e => Attribute.valuesOf key e.attributes := by
  rw [values, event?_ofEvents, ← Attribute.valuesOf_flatMap]
  split
  · rw [Option.bind_some, Attributes.getD_ofList]
  · next hnew =>
    rw [Event.ofKind_eq_nil hnew]
    rfl

theorem total_merged (events : List Event) :
    (ofEvents events).merged.total (Keyed.total List.length) =
      (events.map fun e => e.attributes.length).sum := by
  induction events using List.reverseRecOn with
  | nil => rfl
  | append_singleton events e ih =>
    rw [ofEvents_concat, push,
      Keyed.total_alter (Keyed.total List.length) rfl (Attributes.total_grouped e), ih,
      List.map_append, List.sum_append]
    simp

theorem total_single (events : List Event) :
    ((ofEvents events).single.map fun e => e.2.total List.length).sum =
      (events.map fun e => e.attributes.length).sum := by
  induction events using List.reverseRecOn with
  | nil => rfl
  | append_singleton events e ih =>
    have hown : (e.grouped []).total List.length = e.attributes.length := by
      rw [Attributes.total_grouped, Keyed.total, List.map_nil, List.sum_nil, Nat.zero_add]
    simp only [ofEvents_concat, push, List.map_append, List.sum_append, ih, List.map_cons,
      List.map_nil, List.sum_cons, List.sum_nil, hown]

/-- A group holds the events, each view of it in their order. -/
structure Holds (g : EventGroup) (events : List Event) : Prop where
  kinds : g.kinds = (events.map Event.kind).eraseDups
  contains : ∀ kind, g.contains kind = true ↔ ∃ e ∈ events, e.kind = kind
  keys : ∀ kind, (g.event? kind).map Keyed.keys = if kind ∈ events.map Event.kind then
    some (((Event.ofKind kind events).flatMap fun e => e.attributes.map Attribute.key).eraseDups)
    else none
  values : ∀ kind key, g.values kind key =
    (Event.ofKind kind events).flatMap fun e => Attribute.valuesOf key e.attributes
  occurrences : ∀ kind, List.Forall₂
    (fun attrs e => attrs.keys = (e.attributes.map Attribute.key).eraseDups ∧
      ∀ key, attrs.get? key = if key ∈ e.attributes.map Attribute.key
        then some (Attribute.valuesOf key e.attributes) else none)
    (g.occurrences kind) (Event.ofKind kind events)
  joined : ∀ kind key, g.values kind key =
    (g.occurrences kind).flatMap fun attrs => (attrs.get? key).getD []
  merged_total : g.merged.total (Keyed.total List.length) =
    (events.map fun e => e.attributes.length).sum
  single_total : (g.single.map fun e => e.2.total List.length).sum =
    (events.map fun e => e.attributes.length).sum

theorem holds_ofEvents (events : List Event) : (ofEvents events).Holds events where
  kinds := kinds_ofEvents events
  contains kind := by
    rw [EventGroup.contains, Keyed.contains_eq_true]
    have hkinds := kinds_ofEvents events
    rw [EventGroup.kinds] at hkinds
    rw [hkinds, List.mem_eraseDups, List.mem_map]
  keys kind := by
    rw [event?_ofEvents]
    split
    · rw [Option.map_some, Attributes.keys_ofList, List.map_flatMap]
    · rfl
  values kind key := values_ofEvents kind key events
  occurrences kind := by
    rw [occurrences_ofEvents, List.forall₂_map_left_iff, List.forall₂_same]
    exact fun e _ => ⟨Attributes.keys_ofList e.attributes, fun key =>
      Attributes.get?_ofList key e.attributes⟩
  joined kind key := by
    rw [values_ofEvents, occurrences_ofEvents, List.flatMap_map]
    simp only [Attributes.getD_ofList]
  merged_total := total_merged events
  single_total := total_single events

example :
    let group := ofEvents
      [⟨"wasm", [⟨"k", "1"⟩, ⟨"k", "2"⟩]⟩, ⟨"transfer", []⟩, ⟨"wasm", [⟨"k", "3"⟩]⟩]
    group.kinds = ["wasm", "transfer"] ∧ group.values "wasm" "k" = ["1", "2", "3"] ∧
      group.occurrences "wasm" = [[("k", ["1", "2"])], [("k", ["3"])]] := by
  decide

end EventGroup
end Countersign
