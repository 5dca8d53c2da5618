import Countersign.Json.Basic
import Countersign.Json.Document

/-!
Values read from documents: at most 127 lists and objects around any value, numbers in range, the
last of repeated keys.
-/

namespace Countersign

attribute [local instance (high)] instPowNat

namespace Literal

def integer? (n : Literal) : Option Int :=
  if !n.plain then none
  else if n.negative then
    if 0 < n.significand ∧ n.significand ≤ 2 ^ (63 : Nat) then some (-(n.significand : Int)) else none
  else if n.significand < 2 ^ (64 : Nat) then some n.significand
  else none

def toJson? (n : Literal) : Option Json :=
  match n.integer? with
  | some i => some (.int i)
  | none => (Decimal.Binary64.ofDecimal? n.negative n.significand n.exponent).map .float

end Literal

namespace Document

def greatestDepth : Nat := 127

mutual

def toJson? (depth : Nat) : Document → Option Json
  | .null => some .null
  | .bool b => some (.bool b)
  | .number n => n.toJson?
  | .text s => s.map .text
  | .list items =>
    match depth with
    | 0 => none
    | depth + 1 => (itemsToJson? depth items).map .list
  | .object entries =>
    match depth with
    | 0 => none
    | depth + 1 => (entriesToJson? depth entries).map Json.ofEntries

def itemsToJson? (depth : Nat) : List Document → Option (List Json)
  | [] => some []
  | d :: rest => do
    let v ← toJson? depth d
    let vs ← itemsToJson? depth rest
    return v :: vs

def entriesToJson? (depth : Nat) : List (Option String × Document) → Option (List (String × Json))
  | [] => some []
  | (key, d) :: rest => do
    let key ← key
    let v ← toJson? depth d
    let es ← entriesToJson? depth rest
    return (key, v) :: es

end

end Document

namespace Json

def ofChars? (cs : List Char) : Option Json :=
  (Document.ofChars? cs).bind (Document.toJson? Document.greatestDepth)

def parse? (s : String) : Option Json :=
  ofChars? s.toList

end Json
end Countersign
