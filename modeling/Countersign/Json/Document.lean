import Countersign.Text.Numeral

/-!
JSON texts as written. A document keeps every entry of an object, the exact decimal value of every
number, and marks text that is no text because of a lone surrogate; it judges none of them.
-/

namespace Countersign

/-- The value `significand * 10 ^ exponent`, negated when `negative` holds. `plain` says that neither
a fraction nor an exponent was written. -/
structure Literal where
  negative : Bool
  significand : Nat
  exponent : Int
  plain : Bool
  deriving DecidableEq, Repr

inductive Document where
  | null
  | bool (value : Bool)
  | number (value : Literal)
  | text (value : Option String)
  | list (items : List Document)
  | object (entries : List (Option String × Document))
  deriving Inhabited, Repr

namespace Document

def isSpace (c : Char) : Bool :=
  c == ' ' || c == '\t' || c == '\n' || c == '\r'

def skipSpace (cs : List Char) : List Char :=
  cs.dropWhile isSpace

/-! ### Numbers -/

def digits? (cs : List Char) : Option (List Nat × List Char) :=
  let ds := (cs.takeWhile Char.isDigit).map fun c => c.toNat - '0'.toNat
  if ds.isEmpty then none else some (ds, cs.dropWhile Char.isDigit)

def fraction? : List Char → Option (List Nat × List Char)
  | '.' :: cs => digits? cs
  | cs => some ([], cs)

def power? : List Char → Option (Option Int × List Char)
  | c :: cs =>
    if c = 'e' ∨ c = 'E' then
      let (negative, cs) := match cs with
        | '-' :: rest => (true, rest)
        | '+' :: rest => (false, rest)
        | rest => (false, rest)
      (digits? cs).map fun (ds, rest) =>
        let n : Int := Text.ofDigits ds
        (some (if negative then -n else n), rest)
    else some (none, c :: cs)
  | [] => some (none, [])

def unsignedNumber? (negative : Bool) (cs : List Char) : Option (Literal × List Char) := do
  let (whole, cs) ← digits? cs
  if whole.head? = some 0 ∧ whole.length ≠ 1 then none
  let (fraction, cs) ← fraction? cs
  let (power, cs) ← power? cs
  return ({
    negative
    significand := Text.ofDigits (whole ++ fraction)
    exponent := power.getD 0 - fraction.length
    plain := fraction.isEmpty && power.isNone }, cs)

def number? : List Char → Option (Literal × List Char)
  | '-' :: cs => unsignedNumber? true cs
  | cs => unsignedNumber? false cs

/-! ### Text -/

/-- A character of a text, or a code unit that an escape gives by number. -/
inductive Piece where
  | char (c : Char)
  | unit (n : Nat)
  deriving DecidableEq

def unit? (a b c d : Char) : Option Nat := do
  let a ← Text.hexDigit? a
  let b ← Text.hexDigit? b
  let c ← Text.hexDigit? c
  let d ← Text.hexDigit? d
  return ((16 * a + b) * 16 + c) * 16 + d

def unescape? : Char → Option Char
  | '"' => some '"'
  | '\\' => some '\\'
  | '/' => some '/'
  | 'b' => some '\x08'
  | 'f' => some '\x0c'
  | 'n' => some '\n'
  | 'r' => some '\r'
  | 't' => some '\t'
  | _ => none

def pieces? : List Char → Option (List Piece × List Char)
  | [] => none
  | '"' :: rest => some ([], rest)
  | '\\' :: 'u' :: a :: b :: c :: d :: rest => do
    let n ← unit? a b c d
    let (ps, rest) ← pieces? rest
    return (.unit n :: ps, rest)
  | '\\' :: e :: rest => do
    let c ← unescape? e
    let (ps, rest) ← pieces? rest
    return (.char c :: ps, rest)
  | c :: rest =>
    if c < ' ' then none
    else do
      let (ps, rest) ← pieces? rest
      return (.char c :: ps, rest)

def isHigh (n : Nat) : Bool :=
  0xD800 ≤ n && n < 0xDC00

def isLow (n : Nat) : Bool :=
  0xDC00 ≤ n && n < 0xE000

/-- The characters that the pieces stand for; none when a surrogate stands alone. -/
def resolve? : List Piece → Option (List Char)
  | [] => some []
  | .char c :: rest => (resolve? rest).map (c :: ·)
  | .unit n :: rest =>
    if isHigh n then
      match rest with
      | .unit m :: rest =>
        if isLow m then
          (resolve? rest).map (Char.ofNat (0x10000 + (n - 0xD800) * 0x400 + (m - 0xDC00)) :: ·)
        else none
      | _ => none
    else if isLow n then none
    else (resolve? rest).map (Char.ofNat n :: ·)

def text? (cs : List Char) : Option (Option String × List Char) :=
  (pieces? cs).map fun (ps, rest) => ((resolve? ps).map String.ofList, rest)

/-! ### Values -/

def items? (read : List Char → Option (Document × List Char)) :
    Nat → List Char → Option (List Document × List Char)
  | 0, _ => none
  | n + 1, cs => do
    let (v, cs) ← read (skipSpace cs)
    match skipSpace cs with
    | ',' :: cs => do
      let (vs, cs) ← items? read n cs
      return (v :: vs, cs)
    | ']' :: cs => some ([v], cs)
    | _ => none

def entry? (read : List Char → Option (Document × List Char)) (cs : List Char) :
    Option ((Option String × Document) × List Char) := do
  match skipSpace cs with
  | '"' :: cs => do
    let (key, cs) ← text? cs
    match skipSpace cs with
    | ':' :: cs => do
      let (v, cs) ← read (skipSpace cs)
      return ((key, v), cs)
    | _ => none
  | _ => none

def entries? (read : List Char → Option (Document × List Char)) :
    Nat → List Char → Option (List (Option String × Document) × List Char)
  | 0, _ => none
  | n + 1, cs => do
    let (e, cs) ← entry? read cs
    match skipSpace cs with
    | ',' :: cs => do
      let (es, cs) ← entries? read n cs
      return (e :: es, cs)
    | '}' :: cs => some ([e], cs)
    | _ => none

/-- One value at the front of the text, nested at most `depth` deep. -/
def value? : (depth : Nat) → List Char → Option (Document × List Char)
  | 0, _ => none
  | _ + 1, 'n' :: 'u' :: 'l' :: 'l' :: cs => some (.null, cs)
  | _ + 1, 't' :: 'r' :: 'u' :: 'e' :: cs => some (.bool true, cs)
  | _ + 1, 'f' :: 'a' :: 'l' :: 's' :: 'e' :: cs => some (.bool false, cs)
  | _ + 1, '"' :: cs => (text? cs).map fun (s, cs) => (.text s, cs)
  | depth + 1, '[' :: cs =>
    match skipSpace cs with
    | ']' :: cs => some (.list [], cs)
    | cs => (items? (value? depth) cs.length cs).map fun (vs, cs) => (.list vs, cs)
  | depth + 1, '{' :: cs =>
    match skipSpace cs with
    | '}' :: cs => some (.object [], cs)
    | cs => (entries? (value? depth) cs.length cs).map fun (es, cs) => (.object es, cs)
  | _ + 1, cs => (number? cs).map fun (n, cs) => (.number n, cs)

/-- The one value that the whole text writes. No text nests deeper than it is long. -/
def ofChars? (cs : List Char) : Option Document := do
  let (v, rest) ← value? (cs.length + 1) (skipSpace cs)
  if (skipSpace rest).isEmpty then some v else none

def parse? (s : String) : Option Document :=
  ofChars? s.toList

end Document
end Countersign
