import Countersign.Record
import Countersign.Text.Blank
import Countersign.Text.Quoted

/-! Native coins, and why a message cannot be compared. An amount stays text until two lists of coins are
compared. -/

namespace Countersign

inductive MessageError where
  | invalidAmount (denom amount : String)
  | invalidBase64
  | unsupported (summary : String)
  deriving DecidableEq, Repr

def MessageError.message : MessageError → String
  | .invalidAmount denom amount =>
    s!"Invalid coin amount {Text.quoted amount} for denom {denom}"
  | .invalidBase64 => "Wasm message is not valid base64"
  | .unsupported summary => s!"Unsupported proposal message: {summary}"

structure Coin where
  denom : String
  amount : String
  deriving DecidableEq, Repr

namespace Coin

def read? (v : Json) : Option Coin := do
  let f ← Record.fields? ["denom", "amount"] v
  return {
    denom := ← f.required? "denom" Record.text?
    amount := ← f.required? "amount" Record.text? }

def toJson (c : Coin) : Json :=
  .ofEntries [("denom", .text c.denom), ("amount", .text c.amount)]

def canonical (c : Coin) : Except MessageError Coin :=
  match Text.unsigned? (Text.trimmed c.amount.toList) with
  | some n => .ok { c with amount := String.ofList (Nat.toDigits 10 n) }
  | none => .error (.invalidAmount c.denom c.amount)

def place (c : Coin) : List Coin → List Coin
  | [] => [c]
  | d :: rest => if d.denom < c.denom then d :: place c rest else c :: d :: rest

/-- Coins by ascending denom; coins of one denom keep their order. -/
def ordered (coins : List Coin) : List Coin :=
  coins.foldr place []

def canonicalList (coins : List Coin) : Except MessageError (List Coin) :=
  (coins.mapM canonical).map ordered

theorem place_perm (c : Coin) (coins : List Coin) : (place c coins).Perm (c :: coins) := by
  induction coins with
  | nil => exact .refl _
  | cons d rest ih =>
    simp only [place]
    split
    · exact (ih.cons d).trans (.swap c d rest)
    · exact .refl _

theorem ordered_perm (coins : List Coin) : (ordered coins).Perm coins := by
  induction coins with
  | nil => exact .refl _
  | cons c rest ih => exact (place_perm c _).trans (ih.cons c)

end Coin
end Countersign
