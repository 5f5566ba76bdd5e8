import NodeAdmission.Text.Mark

/-!
# Writing direction in domain names

A name with characters of a script that runs from right to left is shown in an order of its own. So
that its labels do not run into each other, each of them keeps to one direction (`keepsDirection`):

* its first character decides which, and has to be a letter;
* the last one, marks aside, stands firm in that direction, or is a digit;
* a label from left to right has nothing of the other direction in it;
* in a label from right to left, digits of two kinds do not meet.

A name without any such character need not keep to these rules.
-/

namespace NodeAdmission.Http.DomainName

/-- How a character takes part in the direction of a text. -/
inductive Direction where
  | leftToRight
  | rightToLeft
  | europeanNumber
  | arabicNumber
  /-- A mark, which takes the direction of the character before it. -/
  | mark
  | neutral
deriving DecidableEq, Repr

/-- Letters of scripts that run from right to left. -/
def rightToLeft : Text.Ranges := .read "
5BE 5C0 5C3 5C6 5D0-5F4 608 60B 60D 61B-64A 66D-66F 671-6D5 6E5-6E6 6EE-6EF 6FA-710 712-72F 74D-7A5
7B1-7EA 7F4-7F5 7FA 7FE-815 81A 824 828 830-858 85E-88F 8A0-8C9 FBB2-FBC2 FE73 10800-1091B
10920-10A00 10A10-10A35 10A40-10AE4 10AEB-10B35 10B40-10D23 10D4A-10D4F 10D6F-10D8F 10E80-10EA9
10EAD-10ED0 10ED9-10EEF 10F00-10F45 10F51-10F81 10F86-10FF6 1E800-1E8CF 1E922-1E943 1E94B-1ED3D"

def europeanNumbers : Text.Ranges := .read "30-39 6F0-6F9 102E1-102FB"

def arabicNumbers : Text.Ranges := .read "660-669 66B-66C 10D30-10D49 10E60-10E7E"

/-- Symbols and punctuation that take the direction of their surroundings. -/
def neutral : Text.Ranges := .read "
21-2F 3A-40 5B-60 7B-D7 F7 2B9-2BA 2C2-2CF 2D2-2ED 2EF-2FF 375 3F6 58A-58F 606-607 609-60A 60C
60E-60F 66A 6DE 6E9 7F6-7F9 9F2-9F3 9FB AF1 BF3-BFA C78-C7E E3F F3A-F3D 1390-1399 1400 169B-169C
17DB 17F0-180A 1940-1945 19DE-19FF 200C-20C5 2104-214D 218A-2335 237B-2394 2396-26AB 26AD-27FF
2900-2BFF 2CE5-2CEA 2CF9-2CFF 2E00-3004 3008-3020 3030 3037 303D-303F 30A0 30FB 31C0-31E5 4DC0-4DFF
A490-A4C6 A60D-A60F A673 A67E-A67F A700-A721 A788 A828-A82B A838-A839 A874-A877 AB6A-AB6B FBC3-FDFF
FE45-FE46 10101 10140-1018C 10190-101A0 1091F 10B39-10B3F 10D6E 10ED1-10ED8 11052-11065 11660-1166C
11FD5-11FF1 16FE2 1CC00-1CEFF 1D1E9-1D241 1D245 1D300-1D356 1DB00-1DBFF 1E2FF 1EEF0-1F12F
1F16D-1F16F 1F1AD-1F1AF 1F260-1FBFA"

/-- Marks that stand beside their character or count as letters. -/
def firmMarks : Text.Ranges := .read "CBF CC6 1171E 11A07-11A08 11C3F"

def direction (c : Char) : Direction :=
  if rightToLeft.contains c then .rightToLeft
  else if europeanNumbers.contains c then .europeanNumber
  else if arabicNumbers.contains c then .arabicNumber
  else if neutral.contains c then .neutral
  -- Most marks take the direction of their character; the rest count as letters.
  else if Text.isNonspacingMark c && !firmMarks.contains c then .mark
  else .leftToRight

/-- Whether a character makes its name one that runs from right to left. -/
def Direction.isBackward : Direction → Bool
  | .rightToLeft | .arabicNumber => true
  | _ => false

/-- The directions up to the last one that is not a mark's. -/
def withoutMarks (ds : List Direction) : List Direction :=
  (ds.reverse.dropWhile (· = .mark)).reverse

/-- Whether a label from left to right keeps to its direction. -/
def keepsForward (ds : List Direction) : Bool :=
  ds.all (fun d => !d.isBackward) &&
    ((withoutMarks ds).getLast?.any fun d => d = .leftToRight || d = .europeanNumber)

/-- Whether a label from right to left keeps to its direction. -/
def keepsBackward (ds : List Direction) : Bool :=
  ds.all (· ≠ .leftToRight) && !(ds.contains .europeanNumber && ds.contains .arabicNumber) &&
    ((withoutMarks ds).getLast?.any fun d => d.isBackward || d = .europeanNumber)

def keepsDirection (label : List Char) : Bool :=
  let ds := label.map direction
  match ds.head? with
  | none => true
  | some .leftToRight => keepsForward ds
  | some .rightToLeft => keepsBackward ds
  | some _ => false

/-- Whether the labels of a name can be shown without running into each other. -/
def labelsKeepDirection (labels : List (List Char)) : Bool :=
  labels.all (fun label => label.all fun c => !(direction c).isBackward) ||
    labels.all keepsDirection

end NodeAdmission.Http.DomainName
