import Countersign.Text.Category

/-! Text shown between double quotes, with what would not be seen written as an escape. -/

namespace Countersign.Text

def fillers : List Char :=
  ['\u115F', '\u1160', '\u3164', '\uFFA0']

def isHidden (c : Char) : Bool :=
  isUnseen c || isNonspacing c || extendingMarks.contains c || fillers.contains c

def hexDigits (n : Nat) : List Char :=
  Nat.toDigits 16 n

def shown (c : Char) : List Char :=
  match c with
  | '"' => ['\\', '"']
  | '\\' => ['\\', '\\']
  | '\t' => ['\\', 't']
  | '\r' => ['\\', 'r']
  | '\n' => ['\\', 'n']
  | '\x00' => ['\\', '0']
  | c => if isHidden c then ['\\', 'u', '\x7b'] ++ hexDigits c.toNat ++ ['\x7d'] else [c]

def quoted (s : String) : String :=
  String.ofList ('"' :: s.toList.flatMap shown ++ ['"'])

end Countersign.Text
