import Countersign.Text.Category

/-!
The direction in which characters are read, by version 17 of the character database, and the rule for
names that hold characters read from right to left.
-/

namespace Countersign.Url

inductive Direction where
  | leftToRight
  | rightToLeft
  | europeanNumber
  | arabicNumber
  | neutral
  | mark
  deriving DecidableEq, Repr

def rightToLeftChars : Text.CodeSet := .ofText "
  5BE-5F4 608 60B 60D 61B-64A 66D-6D5 6E5-6E6 6EE-6EF 6FA-7F5 7FA-8C9 FBB2-FBC2 FE73 10800-1091B
  10920-10B35 10B40-10D23 10D4A-10D4F 10D6F-10D8F 10E80-10ED0 10F00-10FF6 1E800-1ED3D"

def europeanNumbers : Text.CodeSet := .ofText "30-39 6F0-6F9 102E1-102FB 10D40-10D49"

def arabicNumbers : Text.CodeSet := .ofText "660-669 66B-66C 10D30-10D39 10E60-10E7E"

def neutralChars : Text.CodeSet := .ofText "
  21-2E 3B-3D 5F-60 7B-D7 F7 2B9-2BA 2C2-2CF 2D2-2ED 2EF-2FF 375 3F6 58A-58F 606-607 609-60A 60C
  60E-60F 66A 6DE 6E9 7F6-7F9 9F2-9F3 9FB AF1 BF3-BFA C78-C7E E3F F3A-F3D 1390-1399 1400 169B-169C
  17DB 17F0-180A 1940-1945 19DE-19FF 200C-214D 218A-2335 237B-2394 2396-26AB 26AD-27FF 2900-2BFF
  2CE5-2CEA 2CF9-2CFF 2E00-3004 3008-3020 3030 3037 303D-303F 30A0 30FB 31C0-31E5 4DC0-4DFF
  A490-A4C6 A60D-A60F A673-A67F A700-A721 A788 A828-A82B A838-A839 A874-A877 AB6A-AB6B FBC3-FE46
  10101 10140-1018C 10190-101A0 1091F 10B39-10B3F 10D6E 10ED1-10ED8 11052-11065 11660-1166C
  11FD5-11FF1 16FE2 1CC00-1CEF0 1D1E9-1D245 1D300-1D356 1E2FF 1EEF0-1F12F 1F16D-1F16F 1F1AD
  1F260-1FBFA"

def strongMarks : Text.CodeSet := .ofText "CBF CC6 11A07-11A08 11C3F"

namespace Direction

def of (c : Char) : Direction :=
  if Text.isNonspacing c && !strongMarks.contains c then .mark
  else if europeanNumbers.contains c then .europeanNumber
  else if neutralChars.contains c then .neutral
  else if rightToLeftChars.contains c then .rightToLeft
  else if arabicNumbers.contains c then .arabicNumber
  else .leftToRight

/-- Whether a name that holds such a character has to keep the rule. -/
def isBackward : Direction → Bool
  | .rightToLeft | .arabicNumber => true
  | _ => false

def final? (ds : List Direction) : Option Direction :=
  ds.reverse.find? (· != .mark)

/-- A label starts with a letter and ends with a letter or a number. One that is read from left to
right holds nothing that is read from right to left, and the other way round; and it has numbers of
one kind only. -/
def isOrderly : List Direction → Bool
  | [] => true
  | .leftToRight :: ds =>
    ds.all (!isBackward ·) &&
      [some .leftToRight, some .europeanNumber].contains (final? (.leftToRight :: ds))
  | .rightToLeft :: ds =>
    ds.all (· != .leftToRight) && !(ds.contains .europeanNumber && ds.contains .arabicNumber) &&
      [some .rightToLeft, some .europeanNumber, some .arabicNumber].contains
        (final? (.rightToLeft :: ds))
  | _ => false

end Direction

/-- If any label holds a character that is read from right to left, all labels keep the rule. -/
def readsOrderly (labels : List (List Char)) : Bool :=
  let directions := labels.map (·.map Direction.of)
  !directions.any (·.any Direction.isBackward) || directions.all Direction.isOrderly

end Countersign.Url
