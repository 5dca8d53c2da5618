/-! Maps that list their keys in the order in which they first came. -/

namespace Countersign

/-- Keys with their values. Only `Keyed.alter` adds a key, and it never adds one twice. -/
abbrev Keyed (α : Type) := List (String × α)

namespace Keyed

variable {α : Type}

def keys (m : Keyed α) : List String :=
  m.map Prod.fst

def get? (m : Keyed α) (key : String) : Option α :=
  m.lookup key

def contains (m : Keyed α) (key : String) : Bool :=
  m.any (·.1 == key)

def alter (key : String) (fresh : α) (change : α → α) : Keyed α → Keyed α
  | [] => [(key, change fresh)]
  | (k, v) :: rest =>
    if k = key then (k, change v) :: rest else (k, v) :: alter key fresh change rest

def push (key : String) (value : α) (m : Keyed (List α)) : Keyed (List α) :=
  alter key [] (· ++ [value]) m

theorem keys_alter (key : String) (fresh : α) (change : α → α) (m : Keyed α) :
    keys (alter key fresh change m) = if key ∈ keys m then keys m else keys m ++ [key] := by
  induction m with
  | nil => simp [alter, keys]
  | cons e rest ih =>
    obtain ⟨k, v⟩ := e
    by_cases hk : k = key
    · simp [alter, keys, hk]
    · have hne : ¬key = k := fun h => hk h.symm
      simp only [keys] at ih
      simp only [alter, hk, if_false, keys, List.map_cons, List.mem_cons, hne, false_or, ih]
      split <;> simp_all

theorem get?_alter_self (key : String) (fresh : α) (change : α → α) (m : Keyed α) :
    get? (alter key fresh change m) key = some (change ((get? m key).getD fresh)) := by
  induction m with
  | nil => simp [alter, get?]
  | cons e rest ih =>
    obtain ⟨k, v⟩ := e
    by_cases hk : k = key
    · simp [alter, get?, hk]
    · have hne : (key == k) = false := by simpa using fun h : key = k => hk h.symm
      simp only [get?] at ih
      simp [alter, get?, hk, List.lookup_cons, hne, ih]

theorem get?_alter_of_ne {key other : String} (h : other ≠ key) (fresh : α) (change : α → α)
    (m : Keyed α) : (m.alter key fresh change).get? other = m.get? other := by
  induction m with
  | nil => simp [alter, get?, h]
  | cons e rest ih =>
    obtain ⟨k, v⟩ := e
    simp only [get?] at ih
    by_cases hk : k = key
    · have hne : (other == key) = false := by simpa using h
      simp [alter, get?, hk, List.lookup_cons, hne]
    · simp [alter, get?, hk, List.lookup_cons, ih]

end Keyed
end Countersign
