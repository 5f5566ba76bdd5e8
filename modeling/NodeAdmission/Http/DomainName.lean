import NodeAdmission.Http.DomainName.Direction
import NodeAdmission.Http.DomainName.Folding
import NodeAdmission.Http.DomainName.Joining
import NodeAdmission.Text.Blank
import NodeAdmission.Text.Punycode

/-!
# Domain names

A domain name is written in ASCII: its characters are folded, its labels are split at the dots, and
a label that is not ASCII is written in Punycode behind `xn--`. A label that comes in that form has
to be one that this would have produced. Names that would be shown misleadingly are refused.

* `NodeAdmission.Http.DomainName.Folding` — characters that count as others.
* `NodeAdmission.Http.DomainName.Joining` — where characters without ink may stand.
* `NodeAdmission.Http.DomainName.Direction` — names that run from right to left.
* `toAscii?` — the name in ASCII, if it is a name.
-/

namespace NodeAdmission.Http.DomainName

/-- What stands in front of a label in Punycode. -/
def marker : List Char := "xn--".toList

/-- The ASCII characters that no domain name holds. -/
def isForbidden (c : Char) : Bool :=
  c.toNat ≤ 0x20 || c.toNat = 0x7F || "#/:<>?@[\\]^|%".toList.contains c

def longestLabel : Nat := 1000

/-- The most characters behind the marker of a label that comes in Punycode. -/
def longestEncoded : Nat := 2000

def isAscii (cs : List Char) : Bool := cs.all Text.Punycode.isAscii

/-- Whether a text is one that folding leaves as it is. -/
def isFolded (cs : List Char) : Bool :=
  cs.all (fun c => !refused.contains c && !ignored.contains c) && folded cs = cs

/-- What a label in Punycode stands for. -/
def decodeLabel? (encoded : List Char) : Option (List Char) :=
  if isAscii encoded && encoded.length ≤ longestEncoded && encoded.getLast?.any (· ≠ '-') then
    -- What is spelled in Punycode has to be in the folded form already.
    (Text.Punycode.decode? encoded).filter isFolded
  else none

/-- The label as it is meant. -/
def plainLabel? (label : List Char) : Option (List Char) :=
  if marker.isPrefixOf label then decodeLabel? (label.drop marker.length) else some label

/-- Whether a label can be shown. -/
def isLabel (label : List Char) : Bool :=
  !(label.any isForbidden) && !(label.head?.any Text.isMark) && joinersStand [] label &&
    (isAscii label || label.length ≤ longestLabel)

def asciiLabel (label : List Char) : List Char :=
  if isAscii label then label else marker ++ Text.Punycode.encode label

def toAscii? (name : List Char) : Option (List Char) := do
  if name.any refused.contains then none
  else
    -- Other characters can fold to a dot, so the name is split after folding.
    let labels ← (Text.pieces '.' (folded name)).mapM plainLabel?
    if labels.all isLabel && labelsKeepDirection labels then
      some (['.'].intercalate (labels.map asciiLabel))
    else none

end NodeAdmission.Http.DomainName
