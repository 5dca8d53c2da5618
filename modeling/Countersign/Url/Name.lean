import Countersign.Text.Composed
import Countersign.Url.Encoding
import Countersign.Url.Name.Direction
import Countersign.Url.Name.Label

/-!
Names of hosts in ASCII. The characters of a name are brought into one form, and each label of it
that is not ASCII, or is written as one that is not, has to be well formed.
-/

namespace Countersign.Url

def isSeparator (c : Char) : Bool :=
  ['\x00', '\t', '\n', '\r', ' ', '#', '/', ':', '<', '>', '?', '@', '[', '\\', ']', '^', '|'].contains c

def isForbidden (c : Char) : Bool :=
  isSeparator c || c < ' ' || c == '%' || c == '\x7f'

def foldName? (cs : List Char) : Option (List Char) :=
  (cs.mapM mapNameChar?).map fun images => Text.composed images.flatten

structure Label where
  shown : List Char
  ascii : List Char

namespace Label

def isWellFormed (shown : List Char) : Bool :=
  !shown.any isForbidden && !shown.head?.any Text.isMark && joinsWell shown

/-- A label that `xn--` introduces has to be what the label it stands for is written as. -/
def ofFolded? (cs : List Char) : Option Label :=
  match cs with
  | 'x' :: 'n' :: '-' :: '-' :: code => do
    let shown ← decodeLabel? code
    let exact := code.length ≤ 2000 && !shown.all isAscii && encodeLabel shown == code
    if exact && foldName? shown == some shown && isWellFormed shown then some ⟨shown, cs⟩ else none
  | cs =>
    if !isWellFormed cs then none
    else if cs.all isAscii then some ⟨cs, cs⟩
    else if 1000 < cs.length then none
    else some ⟨cs, "xn--".toList ++ encodeLabel cs⟩

end Label

def nameChars? (cs : List Char) : Option (List Char) := do
  let labels ← (Text.splitOn '.' (← foldName? cs)).mapM Label.ofFolded?
  if readsOrderly (labels.map Label.shown) then
    some (Text.joinWith '.' (labels.map Label.ascii))
  else none

end Countersign.Url
