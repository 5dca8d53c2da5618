import Countersign.Text.Blank
import Countersign.Url.Encoding

/-!
The segments of a path. They are taken one after the other: a dot stays where it is, two dots lead back
by one segment, and a segment that names a drive is not left.
-/

namespace Countersign.Url

inductive Kind where
  | network
  | file
  | other
  deriving DecidableEq, Repr

def Kind.isSpecial : Kind → Bool
  | .network | .file => true
  | .other => false

def withoutBreaks (cs : List Char) : List Char :=
  cs.filter fun c => c != '\t' && c != '\n' && c != '\r'

namespace Segment

def isDot (s : List Char) : Bool :=
  let s := s.map Char.toLower
  s == ['.'] || s == ['%', '2', 'e']

def isDoubleDot (s : List Char) : Bool :=
  let s := s.map Char.toLower
  s == ['.', '.'] || s == ['%', '2', 'e', '.'] || s == ['.', '%', '2', 'e'] ||
    s == ['%', '2', 'e', '%', '2', 'e']

def isDrive : List Char → Bool
  | [c, d] => c.isAlpha && (d == ':' || d == '|')
  | _ => false

/-- Whether two dots do not lead back over a segment. -/
def isAnchor : List Char → Bool
  | [c, d] => isDrive [c, d]
  | c :: d :: '\\' :: _ => isDrive [c, d]
  | _ => false

def back (kept : List (List Char)) : List (List Char) :=
  if kept.getLast?.any isAnchor then kept else kept.dropLast

/-- The first segment of a file may name a drive, and then does so with a colon. -/
def driveOf (kind : Kind) (kept : List (List Char)) (s : List Char) : Option (List Char) :=
  if kind = .file ∧ kept.isEmpty ∧ isDrive s then some [s.headD ':', ':'] else none

/-- Take the segments after those that are kept. At the end, dots leave an empty segment. -/
def take (kind : Kind) : (kept : List (List Char)) → List (List Char) → List (List Char)
  | kept, [] => kept
  | kept, s :: rest =>
    let atEnd := if rest.isEmpty then [[]] else []
    if isDoubleDot s then take kind (back kept ++ atEnd) rest
    else if isDot s then take kind (kept ++ atEnd) rest
    else take kind (kept ++ [(driveOf kind kept s).getD s]) rest

end Segment

def segmentsOf (kind : Kind) (path : List Char) : List (List Char) :=
  let path := if kind.isSpecial then path.map fun c => if c = '\\' then '/' else c else path
  Segment.take kind [] ((Text.splitOn '/' path).map (encode inPath))

def trimFront (segments : List (List Char)) : List (List Char) :=
  match segments.dropWhile List.isEmpty with
  | [] => [[]]
  | rest => rest

/-- Add a segment. It comes in place of a last one that is nothing but a slash. -/
def addSegment (kind : Kind) (parts : List String) (s : String) : List String :=
  let kept := if parts = [""] then [] else parts.map String.toList
  let s := encode (inSegment kind.isSpecial) (withoutBreaks s.toList)
  (Segment.take kind kept [s]).map String.ofList

end Countersign.Url
