import Countersign.Text.Decomposition

/-!
Text in composed normal form: every character is taken apart, marks are put in order, and characters
are put together with the marks that follow them.
-/

namespace Countersign.Text

attribute [local instance (high)] instHashableChar

/-! Syllables of Hangul are numbered: a leading consonant, a vowel and perhaps a trailing one. -/

def leadBase : Nat := 0x1100
def vowelBase : Nat := 0x1161
def trailBase : Nat := 0x11A7
def syllableBase : Nat := 0xAC00

def syllable? (c : Char) : Option Nat :=
  let n := c.toNat
  if syllableBase ≤ n ∧ n < syllableBase + 19 * 21 * 28 then some (n - syllableBase) else none

def syllableParts (n : Nat) : List Char :=
  let trail := if n % 28 = 0 then [] else [Char.ofNat (trailBase + n % 28)]
  Char.ofNat (leadBase + n / 588) :: Char.ofNat (vowelBase + n % 588 / 28) :: trail

def composeSyllable? (a b : Char) : Option Char :=
  let lead := a.toNat - leadBase
  let vowel := b.toNat - vowelBase
  let trail := b.toNat - trailBase
  if leadBase ≤ a.toNat ∧ lead < 19 ∧ vowelBase ≤ b.toNat ∧ vowel < 21 then
    some (Char.ofNat (syllableBase + 588 * lead + 28 * vowel))
  else
    match syllable? a with
    | some n =>
      if n % 28 = 0 ∧ trailBase < b.toNat ∧ trail < 28 then some (Char.ofNat (a.toNat + trail))
      else none
    | none => none

/-! ### Taking apart -/

def takeApart : (depth : Nat) → Char → List Char
  | 0, c => [c]
  | depth + 1, c =>
    match compositions[c]?, replacements[c]?, syllable? c with
    | some (first :: rest), _, _ => takeApart depth first ++ rest
    | _, some image, _ => image
    | _, _, some n => syllableParts n
    | _, _, none => [c]

def decompose (cs : List Char) : List Char :=
  cs.flatMap (takeApart 3)

def placeMark (c : Char) : List Char → List Char
  | [] => [c]
  | d :: rest =>
    if 0 < markClass d ∧ markClass d < markClass c then d :: placeMark c rest else c :: d :: rest

def orderMarks (cs : List Char) : List Char :=
  cs.foldr placeMark []

/-! ### Putting together -/

def pairs : Std.HashMap (Char × Char) Char :=
  .ofList (compositions.toList.filterMap fun (c, parts) =>
    match parts with
    | [a, b] => some ((a, b), c)
    | _ => none)

def compose? (a b : Char) : Option Char :=
  pairs[(a, b)]? <|> composeSyllable? a b

/-- Put `base` together with what follows. `marks` have been kept after it, the last of them of class
`last`; a character composes with the base only if no mark of its class or a higher one is between. -/
def composeFrom (base : Char) (marks : List Char) (last : Nat) : List Char → List Char
  | [] => base :: marks
  | c :: rest =>
    let reached := marks.isEmpty || last < markClass c
    match if reached then compose? base c else none with
    | some composed => composeFrom composed marks last rest
    | none =>
      if markClass c = 0 then base :: marks ++ composeFrom c [] 0 rest
      else composeFrom base (marks ++ [c]) (markClass c) rest

def compose : List Char → List Char
  | [] => []
  | c :: rest => if markClass c = 0 then composeFrom c [] 0 rest else c :: compose rest

def composed (cs : List Char) : List Char :=
  compose (orderMarks (decompose cs))

end Countersign.Text
