import Countersign.Decimal.Binary64

/-! JSON values. An integer is one that fits a 64-bit word, signed or not; any other number is binary. -/

namespace Countersign

attribute [local instance (high)] instPowNat

inductive Json where
  | null
  | bool (value : Bool)
  | int (value : Int)
  | float (value : Decimal.Binary64)
  | text (value : String)
  | list (items : List Json)
  | object (entries : List (String × Json))
  deriving Inhabited, Repr

namespace Entries

variable {α : Type}

/-- Entries in ascending key order with `key` set to `value`. -/
def put (key : String) (value : α) : List (String × α) → List (String × α)
  | [] => [(key, value)]
  | (k, v) :: rest =>
    if key < k then (key, value) :: (k, v) :: rest
    else if key = k then (key, value) :: rest
    else (k, v) :: put key value rest

def ofList (entries : List (String × α)) : List (String × α) :=
  entries.foldl (fun sorted (k, v) => put k v sorted) []

theorem lookup_put_self (key : String) (value : α) (entries : List (String × α)) :
    (put key value entries).lookup key = some value := by
  induction entries with
  | nil => simp [put]
  | cons e rest ih =>
    obtain ⟨k, v⟩ := e
    by_cases hlt : key < k
    · simp [put, hlt]
    · by_cases heq : key = k
      · simp [put, heq]
      · have hne : (key == k) = false := by simpa using heq
        simp [put, hlt, heq, List.lookup_cons, hne, ih]

end Entries

namespace Json

def isInteger (i : Int) : Bool :=
  -(2 ^ (63 : Nat)) ≤ i && i < 2 ^ (64 : Nat)

def ofNat (n : Nat) : Json :=
  .int n

def ofEntries (entries : List (String × Json)) : Json :=
  .object (Entries.ofList entries)

def ofOption {α : Type} (write : α → Json) : Option α → Json
  | none => .null
  | some a => write a

def get? (key : String) : Json → Option Json
  | .object entries => entries.lookup key
  | _ => none

def getD (key : String) (v : Json) : Json :=
  (v.get? key).getD .null

def text? : Json → Option String
  | .text s => some s
  | _ => none

def items? : Json → Option (List Json)
  | .list items => some items
  | _ => none

def entries? : Json → Option (List (String × Json))
  | .object entries => some entries
  | _ => none

def word64? : Json → Option UInt64
  | .int i => if 0 ≤ i ∧ i < 2 ^ (64 : Nat) then some (UInt64.ofNat i.toNat) else none
  | _ => none

def kind : Json → String
  | .null => "null"
  | .bool _ => "bool"
  | .int _ | .float _ => "number"
  | .text _ => "string"
  | .list _ => "array"
  | .object _ => "object"

mutual

def sorted : Json → Json
  | .list items => .list (sortedItems items)
  | .object entries => .object (Entries.ofList (sortedEntries entries))
  | v => v

def sortedItems : List Json → List Json
  | [] => []
  | v :: rest => v.sorted :: sortedItems rest

def sortedEntries : List (String × Json) → List (String × Json)
  | [] => []
  | (k, v) :: rest => (k, v.sorted) :: sortedEntries rest

end

end Json
end Countersign
