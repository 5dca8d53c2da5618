import Countersign.Json.Reader

/-!
Typed records read from JSON. A record is an object whose other entries are ignored, or a list of its
fields in order. The same readers serve parsed values and documents as written.
-/

namespace Countersign

attribute [local instance (high)] instPowNat

/-- What a reader sees of a place in a JSON text. -/
inductive Shape (α : Type) where
  | null
  | bool (value : Bool)
  | natural (value : Nat)
  | text (value : String)
  | list (items : List α)
  | object (entries : List (String × α))
  | other

class Source (α : Type) where
  shape : α → Shape α

def Json.shape : Json → Shape Json
  | .null => .null
  | .bool b => .bool b
  | .int i => if 0 ≤ i then .natural i.toNat else .other
  | .float _ => .other
  | .text s => .text s
  | .list items => .list items
  | .object entries => .object entries

instance : Source Json := ⟨Json.shape⟩

/-- Every key has to be text, the values are looked at only when a field asks for them. -/
def Document.shape : Document → Shape Document
  | .null => .null
  | .bool b => .bool b
  | .number n =>
    match n.integer? with
    | some i => if 0 ≤ i then .natural i.toNat else .other
    | none => .other
  | .text (some s) => .text s
  | .text none => .other
  | .list items => .list items
  | .object entries =>
    match entries.mapM fun (key, d) => key.map (·, d) with
    | some entries => .object entries
    | none => .other

instance : Source Document := ⟨Document.shape⟩

namespace Record

variable {α β : Type} [Source α]

/-! ### Single values -/

def text? (v : α) : Option String :=
  match Source.shape v with
  | .text s => some s
  | _ => none

def bool? (v : α) : Option Bool :=
  match Source.shape v with
  | .bool b => some b
  | _ => none

def below? (bound : Nat) (v : α) : Option Nat :=
  match Source.shape v with
  | .natural n => if n < bound then some n else none
  | _ => none

def word32? (v : α) : Option UInt32 :=
  (below? (2 ^ (32 : Nat)) v).map UInt32.ofNat

def word64? (v : α) : Option UInt64 :=
  (below? (2 ^ (64 : Nat)) v).map UInt64.ofNat

def list? (read : α → Option β) (v : α) : Option (List β) :=
  match Source.shape v with
  | .list items => items.mapM read
  | _ => none

def nullable? (read : α → Option β) (v : α) : Option (Option β) :=
  match Source.shape v with
  | .null => some none
  | _ => (read v).map some

/-! ### Fields -/

/-- The fields found of a record. `named` holds for an object. -/
structure Fields (α : Type) where
  named : Bool
  values : List (String × α)

/-- The entries that name a field of the record, each field at most once. An alias names its field. -/
def known? (names : List String) (aliases : List (String × String)) :
    List (String × α) → Option (List (String × α))
  | [] => some []
  | (key, v) :: rest => do
    let found ← known? names aliases rest
    let name := (aliases.lookup key).getD key
    if name ∈ names then
      if found.any (·.1 == name) then none else some ((name, v) :: found)
    else some found

def fieldsWith? (aliases : List (String × String)) (names : List String) (v : α) :
    Option (Fields α) :=
  match Source.shape v with
  | .object entries => (known? names aliases entries).map (⟨true, ·⟩)
  | .list items => if items.length ≤ names.length then some ⟨false, names.zip items⟩ else none
  | _ => none

def fields? (names : List String) (v : α) : Option (Fields α) :=
  fieldsWith? [] names v

namespace Fields

def required? (f : Fields α) (name : String) (read : α → Option β) : Option β :=
  (f.values.lookup name).bind read

def withDefault? (f : Fields α) (name : String) (read : α → Option β) (default : β) : Option β :=
  match f.values.lookup name with
  | some v => read v
  | none => some default

def optional? (f : Fields α) (name : String) (read : α → Option β) : Option (Option β) :=
  match f.values.lookup name with
  | some v => nullable? read v
  | none => if f.named then some none else none

end Fields

/-! ### Alternatives -/

/-- The chosen alternative and what it carries: a text names one that carries nothing, an object
with one entry names one with its content. -/
def variant? (v : α) : Option (String × Option α) :=
  match Source.shape v with
  | .text name => some (name, none)
  | .object [(name, content)] => some (name, some content)
  | _ => none

def unit? (v : α) : Option String := do
  let (name, content) ← variant? v
  match content with
  | none => some name
  | some content =>
    match Source.shape content with
    | .null => some name
    | _ => none

def content? (names : List String) (content : Option α) : Option (Fields α) := do
  let content ← content
  match Source.shape content with
  | .object _ => fields? names content
  | _ => none

end Record
end Countersign
