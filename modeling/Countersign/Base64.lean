/-!
Base64 in the standard alphabet. Every byte list has one encoding, and only encodings are decoded:
padding is required and the bits it leaves over are zero.
-/

namespace Countersign.Base64

def symbol (n : Nat) : Char :=
  if n < 26 then Char.ofNat ('A'.toNat + n)
  else if n < 52 then Char.ofNat ('a'.toNat + (n - 26))
  else if n < 62 then Char.ofNat ('0'.toNat + (n - 52))
  else if n = 62 then '+'
  else '/'

def sextet? (c : Char) : Option Nat :=
  if 'A' ≤ c ∧ c ≤ 'Z' then some (c.toNat - 'A'.toNat)
  else if 'a' ≤ c ∧ c ≤ 'z' then some (c.toNat - 'a'.toNat + 26)
  else if '0' ≤ c ∧ c ≤ '9' then some (c.toNat - '0'.toNat + 52)
  else if c = '+' then some 62
  else if c = '/' then some 63
  else none

def encode : List UInt8 → List Char
  | [] => []
  | [a] =>
    let n := a.toNat * 16
    [symbol (n / 64), symbol (n % 64), '=', '=']
  | [a, b] =>
    let n := (a.toNat * 256 + b.toNat) * 4
    [symbol (n / 4096), symbol (n / 64 % 64), symbol (n % 64), '=']
  | a :: b :: c :: rest =>
    let n := (a.toNat * 256 + b.toNat) * 256 + c.toNat
    symbol (n / 262144) :: symbol (n / 4096 % 64) :: symbol (n / 64 % 64) :: symbol (n % 64) ::
      encode rest

/-- The bytes of four symbols, the last one or two of which may be padding. -/
def quad? (a b c d : Char) : Option (List UInt8) := do
  let n := (← sextet? a) * 64 + (← sextet? b)
  if d = '=' then
    if c = '=' then
      if n % 16 = 0 then some [UInt8.ofNat (n / 16)] else none
    else
      let n := n * 64 + (← sextet? c)
      if n % 4 = 0 then some [UInt8.ofNat (n / 1024), UInt8.ofNat (n / 4)] else none
  else
    let n := (n * 64 + (← sextet? c)) * 64 + (← sextet? d)
    some [UInt8.ofNat (n / 65536), UInt8.ofNat (n / 256), UInt8.ofNat n]

def decode? : List Char → Option (List UInt8)
  | [] => some []
  | a :: b :: c :: d :: rest => do
    let bytes ← quad? a b c d
    if rest.isEmpty then some bytes
    else if d = '=' then none
    else
      let tail ← decode? rest
      return bytes ++ tail
  | _ => none

def ofText (s : String) : String :=
  String.ofList (encode s.toUTF8.data.toList)

def ofBytes (bytes : List UInt8) : String :=
  String.ofList (encode bytes)

def toText? (bytes : List UInt8) : Option String :=
  String.fromUTF8? ⟨bytes.toArray⟩

end Countersign.Base64
