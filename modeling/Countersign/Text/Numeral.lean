/-! Whole numbers written in text: numbers of any size, and numbers below a bound. -/

namespace Countersign.Text

-- Powers are those of the core library, whatever else is imported.
attribute [local instance (high)] instPowNat

def digit? (c : Char) : Option Nat :=
  if '0' ≤ c ∧ c ≤ '9' then some (c.toNat - '0'.toNat) else none

def hexDigit? (c : Char) : Option Nat :=
  if '0' ≤ c ∧ c ≤ '9' then some (c.toNat - '0'.toNat)
  else if 'a' ≤ c ∧ c ≤ 'f' then some (c.toNat - 'a'.toNat + 10)
  else if 'A' ≤ c ∧ c ≤ 'F' then some (c.toNat - 'A'.toNat + 10)
  else none

def ofDigits (digits : List Nat) : Nat :=
  digits.foldl (fun value d => 10 * value + d) 0

/-- A number of any size without its sign: digits, between which underscores may stand. -/
def magnitude? : List Char → Option Nat
  | [] => none
  | '_' :: _ => none
  | cs => ((cs.filter (· != '_')).mapM digit?).map ofDigits

def unsigned? : List Char → Option Nat
  | '+' :: cs => magnitude? cs
  | cs => magnitude? cs

def signed? : List Char → Option Int
  | '-' :: cs => (magnitude? cs).map fun n => -(n : Int)
  | cs => (unsigned? cs).map Int.ofNat

/-- Digits alone, after at most one plus sign, with a value below `bound`. -/
def below? (bound : Nat) (cs : List Char) : Option Nat :=
  let digits := match cs with
    | '+' :: rest => rest
    | cs => cs
  if digits.isEmpty then none
  else (digits.mapM digit?).bind fun ds =>
    if ofDigits ds < bound then some (ofDigits ds) else none

def word32? (s : List Char) : Option UInt32 :=
  (below? (2 ^ (32 : Nat)) s).map UInt32.ofNat

def word64? (s : List Char) : Option UInt64 :=
  (below? (2 ^ (64 : Nat)) s).map UInt64.ofNat

end Countersign.Text
