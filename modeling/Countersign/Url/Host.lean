import Countersign.Url.Name

/-! The host of an address: a name, or a number in the old or the new form. -/

namespace Countersign.Url

attribute [local instance (high)] instPowNat

inductive UrlError where
  | emptyHost
  | invalidDomain
  | invalidPortNumber
  | invalidIpv4
  | invalidIpv6
  | invalidCharacter
  | relative
  deriving DecidableEq, Repr

def UrlError.message : UrlError → String
  | .emptyHost => "empty host"
  | .invalidDomain => "invalid international domain name"
  | .invalidPortNumber => "invalid port number"
  | .invalidIpv4 => "invalid IPv4 address"
  | .invalidIpv6 => "invalid IPv6 address"
  | .invalidCharacter => "invalid domain character"
  | .relative => "relative URL without a base"

inductive Host where
  | name (text : String)
  | ipv4 (value : Nat)
  | ipv6 (pieces : List Nat)
  deriving DecidableEq, Repr

/-! ### Numbers of four parts -/

def digitsIn? (radix : Nat) (cs : List Char) : Option Nat :=
  cs.foldl (fun value c => do
    let n ← value
    let d ← Text.hexDigit? c
    if d < radix then some (radix * n + d) else none) (some 0)

/-- A part in hexadecimal, octal or decimal. -/
def ipv4Part? : List Char → Option Nat
  | [] => none
  | '0' :: 'x' :: cs => digitsIn? 16 cs
  | '0' :: 'X' :: cs => digitsIn? 16 cs
  | '0' :: c :: cs => digitsIn? 8 (c :: cs)
  | cs => digitsIn? 10 cs

def nameParts (cs : List Char) : List (List Char) :=
  let parts := Text.splitOn '.' cs
  if parts.getLast? = some [] then parts.dropLast else parts

def endsInNumber (cs : List Char) : Bool :=
  match (nameParts cs).getLast? with
  | none => false
  | some last => (!last.isEmpty && last.all Char.isDigit) || (ipv4Part? last).isSome

def ipv4? (cs : List Char) : Option Nat := do
  let parts := nameParts cs
  if 4 < parts.length then none
  let numbers ← parts.mapM ipv4Part?
  let last ← numbers.getLast?
  let front := numbers.dropLast
  if front.any (255 < ·) ∨ 256 ^ (4 - front.length) ≤ last then none
  let high := front.foldl (fun n x => 256 * n + x) 0
  return high * 256 ^ (4 - front.length) + last

def ipv4Chars (n : Nat) : List Char :=
  Text.joinWith '.' ([n / 16777216, n / 65536 % 256, n / 256 % 256, n % 256].map (Nat.toDigits 10))

/-! ### Numbers of eight pieces -/

def ipv6Piece? (cs : List Char) : Option Nat :=
  if cs.isEmpty ∨ 4 < cs.length then none else digitsIn? 16 cs

def strictByte? (cs : List Char) : Option Nat :=
  if cs.isEmpty ∨ !cs.all Char.isDigit ∨ (cs.head? = some '0' ∧ cs.length ≠ 1) then none
  else (digitsIn? 10 cs).bind fun n => if n < 256 then some n else none

/-- The last group may be four decimal bytes. -/
def ipv6Group? (cs : List Char) : Option (List Nat) :=
  if cs.contains '.' then
    match (Text.splitOn '.' cs).mapM strictByte? with
    | some [a, b, c, d] => some [256 * a + b, 256 * c + d]
    | _ => none
  else (ipv6Piece? cs).map ([·])

def ipv6Groups? : List (List Char) → Option (List Nat)
  | [] => some []
  | [last] => ipv6Group? last
  | group :: rest => do return (← ipv6Piece? group) :: (← ipv6Groups? rest)

def ipv6Side? (cs : List Char) : Option (List Nat) :=
  if cs.isEmpty then some [] else ipv6Groups? (Text.splitOn ':' cs)

def splitGap : List Char → Option (List Char × List Char)
  | ':' :: ':' :: rest => some ([], rest)
  | c :: rest => (splitGap rest).map fun (front, back) => (c :: front, back)
  | [] => none

def ipv6? (cs : List Char) : Option (List Nat) :=
  match splitGap cs with
  | none => (ipv6Side? cs).bind fun pieces => if pieces.length = 8 then some pieces else none
  | some (front, back) => do
    let a ← ipv6Side? front
    let b ← ipv6Side? back
    if front.contains '.' ∨ 7 < a.length + b.length then none
    return a ++ List.replicate (8 - a.length - b.length) 0 ++ b

def zeros (pieces : List Nat) : Nat :=
  (pieces.takeWhile (· == 0)).length

/-- Start and length of the longest run of two zeros or more, the first one of that length. -/
def longestGap (pieces : List Nat) : Nat × Nat :=
  (List.range 8).foldl (fun (start, length) i =>
    let n := zeros (pieces.drop i)
    if max 1 length < n then (i, n) else (start, length)) (0, 0)

def ipv6Chars (pieces : List Nat) : List Char :=
  let hex (part : List Nat) := Text.joinWith ':' (part.map (Nat.toDigits 16))
  let (start, length) := longestGap pieces
  let body :=
    if length = 0 then hex pieces
    else hex (pieces.take start) ++ ':' :: ':' :: hex (pieces.drop (start + length))
  '[' :: body ++ [']']

/-! ### Hosts -/

def specialHost (cs : List Char) : Except UrlError Host :=
  match cs with
  | [] => .error .emptyHost
  | '[' :: rest =>
    match rest.getLast?, ipv6? rest.dropLast with
    | some ']', some pieces => .ok (.ipv6 pieces)
    | _, _ => .error .invalidIpv6
  | cs =>
    match (String.fromUTF8? ⟨(decode cs).toArray⟩).bind fun s => nameChars? s.toList with
    | none => .error .invalidDomain
    | some [] => .error .emptyHost
    | some name =>
      if endsInNumber name then
        match ipv4? name with
        | some n => .ok (.ipv4 n)
        | none => .error .invalidIpv4
      else .ok (.name (String.ofList name))

def otherHost (cs : List Char) : Except UrlError Host :=
  match cs with
  | '[' :: rest =>
    match rest.getLast?, ipv6? rest.dropLast with
    | some ']', some pieces => .ok (.ipv6 pieces)
    | _, _ => .error .invalidIpv6
  | cs =>
    if cs.any isSeparator then .error .invalidCharacter
    else .ok (.name (String.ofList (encode isControl cs)))

def Host.chars : Host → List Char
  | .name text => text.toList
  | .ipv4 n => ipv4Chars n
  | .ipv6 pieces => ipv6Chars pieces

end Countersign.Url
