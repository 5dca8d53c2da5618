import Countersign.Url.Name.Joining

/-!
Labels of a name, written in ASCII. The other characters of a label are inserted one by one, in
ascending order, each as the distance from the one before. A distance has digits of varying weight.
-/

namespace Countersign.Url

def isAscii (c : Char) : Bool :=
  c.toNat < 0x80

/-! ### Distances -/

def shrink (delta k : Nat) : Nat :=
  if 455 < delta then shrink (delta / 35) (k + 36) else k + 36 * delta / (delta + 38)
termination_by delta
decreasing_by exact Nat.div_lt_self (by omega) (by omega)

/-- The bias after a distance to the character that is number `points` of those inserted. -/
def adapt (delta points : Nat) (first : Bool) : Nat :=
  let delta := if first then delta / 700 else delta / 2
  shrink (delta + delta / points) 0

def digitLimit (bias position : Nat) : Nat :=
  if position ≤ bias then 1 else if bias + 26 ≤ position then 26 else position - bias

theorem digitLimit_pos (bias position : Nat) : 1 ≤ digitLimit bias position := by
  grind [digitLimit]

def labelDigit (d : Nat) : Char :=
  Char.ofNat (if d < 26 then 'a'.toNat + d else '0'.toNat + (d - 26))

def labelDigit? (c : Char) : Option Nat :=
  if c.isLower then some (c.toNat - 'a'.toNat)
  else if c.isDigit then some (c.toNat - '0'.toNat + 26)
  else none

def distanceChars (bias position q : Nat) : List Char :=
  let limit := digitLimit bias position
  if q < limit then [labelDigit q]
  else
    labelDigit (limit + (q - limit) % (36 - limit)) ::
      distanceChars bias (position + 36) ((q - limit) / (36 - limit))
termination_by q
decreasing_by
  have := digitLimit_pos bias position
  have := Nat.div_le_self (q - digitLimit bias position) (36 - digitLimit bias position)
  omega

def readDistance? (bias position weight value : Nat) : List Char → Option (Nat × List Char)
  | [] => none
  | c :: cs => do
    let d ← labelDigit? c
    let limit := digitLimit bias position
    if d < limit then some (value + d * weight, cs)
    else readDistance? bias (position + 36) (weight * (36 - limit)) (value + d * weight) cs

/-! ### Labels in ASCII -/

structure LabelState where
  delta : Nat
  bias : Nat
  done : Nat
  out : List Char

def writePoint (basic n : Nat) (label : List Char) (s : LabelState) : LabelState :=
  label.foldl (fun s c =>
    if c.toNat < n then { s with delta := s.delta + 1 }
    else if c.toNat = n then
      { delta := 0
        bias := adapt s.delta (s.done + 1) (s.done == basic)
        done := s.done + 1
        out := s.out ++ distanceChars s.bias 36 s.delta }
    else s) s

def encodeLabel (label : List Char) : List Char :=
  let basic := label.filter isAscii
  let points := ((label.filter (!isAscii ·)).map Char.toNat).mergeSort.eraseDups
  let start : LabelState := {
    delta := 0, bias := 72, done := basic.length
    out := if basic.isEmpty then [] else basic ++ ['-'] }
  let (s, _) := points.foldl (fun (s, before) n =>
    let s := writePoint basic.length n label
      { s with delta := s.delta + (n - before) * (s.done + 1) }
    ({ s with delta := s.delta + 1 }, n + 1)) (start, 128)
  s.out

structure Insertion where
  point : Nat := 128
  index : Nat := 0
  bias : Nat := 72
  first : Bool := true
  out : List Char

/-- Insert a character for each distance, of which there are at most `count`. -/
def insertAll? : (count : Nat) → Insertion → List Char → Option (List Char)
  | _, s, [] => some s.out
  | 0, _, _ => none
  | count + 1, s, cs => do
    let (delta, rest) ← readDistance? s.bias 36 1 0 cs
    let size := s.out.length + 1
    let point := s.point + (s.index + delta) / size
    let index := (s.index + delta) % size
    if !point.isValidChar then none
    insertAll? count
      { point
        index := index + 1
        bias := adapt delta size s.first
        first := false
        out := s.out.take index ++ Char.ofNat point :: s.out.drop index } rest

def decodeLabel? (cs : List Char) : Option (List Char) :=
  let back := cs.reverse.takeWhile (· != '-')
  let basic := (cs.reverse.drop (back.length + 1)).reverse
  insertAll? cs.length { out := basic } back.reverse

end Countersign.Url
