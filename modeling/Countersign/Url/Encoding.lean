import Countersign.Text.Numeral

/-! Percent encoding: which characters an address writes as `%XX`, and back. -/

namespace Countersign.Url

def hexDigit (n : Nat) : Char :=
  (Nat.digitChar n).toUpper

def percent (b : UInt8) : List Char :=
  ['%', hexDigit (b.toNat / 16), hexDigit (b.toNat % 16)]

def utf8 (c : Char) : List UInt8 :=
  (String.ofList [c]).toUTF8.data.toList

/-- Controls and everything outside ASCII; each part of an address adds characters of its own. -/
def isControl (c : Char) : Bool :=
  c.toNat < 0x20 || 0x7E < c.toNat

def inFragment (c : Char) : Bool :=
  isControl c || [' ', '"', '<', '>', '`'].contains c

def inQuery (special : Bool) (c : Char) : Bool :=
  isControl c || [' ', '"', '#', '<', '>'].contains c || (special && c == '\'')

def inPath (c : Char) : Bool :=
  inFragment c || ['#', '?', '{', '}'].contains c

def inSegment (special : Bool) (c : Char) : Bool :=
  inPath c || c == '/' || c == '%' || (special && c == '\\')

def inUserinfo (c : Char) : Bool :=
  inPath c || ['/', ':', ';', '=', '@', '[', '\\', ']', '^', '|'].contains c

def encodeChar (escaped : Char → Bool) (c : Char) : List Char :=
  if escaped c then (utf8 c).flatMap percent else [c]

def encode (escaped : Char → Bool) (cs : List Char) : List Char :=
  cs.flatMap (encodeChar escaped)

def encodeForm (cs : List Char) : List Char :=
  cs.flatMap fun c =>
    if c == ' ' then ['+']
    else if c.isAlphanum || ['*', '-', '.', '_'].contains c then [c]
    else (utf8 c).flatMap percent

/-- The bytes of a text in which `%XX` stands for a byte; any other `%` stands for itself. -/
def decode : List Char → List UInt8
  | [] => []
  | c :: cs =>
    match c, cs with
    | '%', a :: b :: rest =>
      match Text.hexDigit? a, Text.hexDigit? b with
      | some x, some y => UInt8.ofNat (16 * x + y) :: decode rest
      | _, _ => utf8 '%' ++ decode (a :: b :: rest)
    | c, cs => utf8 c ++ decode cs
termination_by cs => cs.length

end Countersign.Url
