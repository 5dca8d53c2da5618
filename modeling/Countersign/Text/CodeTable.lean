import Std.Data.HashMap
import Countersign.Text.Blank
import Countersign.Text.Numeral

/-!
Tables of characters, written as text with code points in hexadecimal. A set is a list of runs, such as
`41-5A 5F`. A map is a list of entries: `C0:41.300,41.301` gives the images of successive characters,
`41-5A:61` those of a run, and `100/12E:101` those of every second character of one. The images
of a run are successive, too, if they are single characters.
-/

namespace Countersign.Text

-- Characters hash as in the core library, whatever else is imported.
attribute [local instance (high)] instHashableChar

def words (s : String) : List (List Char) :=
  (splitOn ' ' (s.toList.map fun c => if c = '\n' then ' ' else c)).filter (!·.isEmpty)

def ofHex (cs : List Char) : Nat :=
  cs.foldl (fun value c => 16 * value + (hexDigit? c).getD 0) 0

structure CodeSet where
  runs : List (Nat × Nat)

namespace CodeSet

def ofText (s : String) : CodeSet where
  runs := (words s).map fun word =>
    match splitOn '-' word with
    | [first, last] => (ofHex first, ofHex last)
    | _ => (ofHex word, ofHex word)

def contains (s : CodeSet) (c : Char) : Bool :=
  s.runs.any fun (first, last) => first ≤ c.toNat && c.toNat ≤ last

end CodeSet

abbrev CodeMap := Std.HashMap Char (List Char)

namespace CodeMap

def image (cs : List Char) : List Nat :=
  if cs.isEmpty then [] else (splitOn '.' cs).map ofHex

def shifted (offset : Nat) : List Nat → List Nat
  | [n] => [n + offset]
  | image => image

def run (first last step : Nat) (images : List Char) : List (Nat × List Nat) :=
  (List.range ((last - first) / step + 1)).map fun i =>
    (first + step * i, shifted (step * i) (image images))

def entries (word : List Char) : List (Nat × List Nat) :=
  match splitOn ':' word with
  | [keys, images] =>
    match splitOn '-' keys, splitOn '/' keys with
    | [first, last], _ => run (ofHex first) (ofHex last) 1 images
    | _, [first, last] => run (ofHex first) (ofHex last) 2 images
    | _, _ => (splitOn ',' images).mapIdx fun i cs => (ofHex keys + i, image cs)
  | _ => []

def ofText (s : String) : CodeMap :=
  .ofList ((words s).flatMap fun word =>
    (entries word).map fun (key, image) => (Char.ofNat key, image.map Char.ofNat))

end CodeMap
end Countersign.Text
