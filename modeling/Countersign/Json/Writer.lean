import Countersign.Decimal.Shortest
import Countersign.Json.Basic

/-! JSON texts of values: without white space, and over several lines. Entries keep their order. -/

namespace Countersign.Json

/-- Floats are positional from `0.00001` up to, but not including, `1e+16`. -/
def floatLayout : Decimal.Layout :=
  ⟨-5, 15⟩

def escapeChar (c : Char) : List Char :=
  match c with
  | '"' => ['\\', '"']
  | '\\' => ['\\', '\\']
  | '\x08' => ['\\', 'b']
  | '\x0c' => ['\\', 'f']
  | '\n' => ['\\', 'n']
  | '\r' => ['\\', 'r']
  | '\t' => ['\\', 't']
  | c =>
    if c < ' ' then
      ['\\', 'u', '0', '0', Nat.digitChar (c.toNat / 16), Nat.digitChar (c.toNat % 16)]
    else [c]

def textChars (s : String) : List Char :=
  '"' :: s.toList.flatMap escapeChar ++ ['"']

def intChars (i : Int) : List Char :=
  if i < 0 then '-' :: Nat.toDigits 10 i.natAbs else Nat.toDigits 10 i.natAbs

mutual

def chars : Json → List Char
  | .null => ['n', 'u', 'l', 'l']
  | .bool true => ['t', 'r', 'u', 'e']
  | .bool false => ['f', 'a', 'l', 's', 'e']
  | .int i => intChars i
  | .float x => floatLayout.write x
  | .text s => textChars s
  | .list items => '[' :: itemsChars items
  | .object entries => '{' :: entriesChars entries

def itemsChars : List Json → List Char
  | [] => [']']
  | [v] => v.chars ++ [']']
  | v :: rest => v.chars ++ ',' :: itemsChars rest

def entriesChars : List (String × Json) → List Char
  | [] => ['}']
  | [(k, v)] => textChars k ++ ':' :: (v.chars ++ ['}'])
  | (k, v) :: rest => textChars k ++ ':' :: (v.chars ++ ',' :: entriesChars rest)

end

def write (v : Json) : String :=
  String.ofList v.chars

mutual

/-- Lines of a value that is nested `depth` deep, two blanks a level. -/
def prettyChars (depth : Nat) : Json → List Char
  | .list [] => ['[', ']']
  | .list (v :: rest) => '[' :: prettyItems (depth + 1) (v :: rest)
  | .object [] => ['{', '}']
  | .object (e :: rest) => '{' :: prettyEntries (depth + 1) (e :: rest)
  | v => v.chars

def prettyItems (depth : Nat) : List Json → List Char
  | [] => '\n' :: List.replicate (2 * (depth - 1)) ' ' ++ [']']
  | v :: rest =>
    '\n' :: List.replicate (2 * depth) ' ' ++ prettyChars depth v ++
      (if rest.isEmpty then [] else [',']) ++ prettyItems depth rest

def prettyEntries (depth : Nat) : List (String × Json) → List Char
  | [] => '\n' :: List.replicate (2 * (depth - 1)) ' ' ++ ['}']
  | (k, v) :: rest =>
    '\n' :: List.replicate (2 * depth) ' ' ++ textChars k ++ ':' :: ' ' :: prettyChars depth v ++
      (if rest.isEmpty then [] else [',']) ++ prettyEntries depth rest

end

def pretty (v : Json) : String :=
  String.ofList (v.prettyChars 0)

end Countersign.Json
