import BearerGate.Net.Domain.Joining
import BearerGate.Net.Domain.Spelling
import BearerGate.Net.Punycode

/-!
# Domains

A domain is a row of labels with points between them. It may be written in any script, in capital
or small letters, and as people see it or as servers exchange it, in ASCII. A label in ASCII that
stands for one in another script bears a mark in front.

`Domain.inAscii?` gives the form that servers exchange, if a text is a domain at all.
-/

namespace BearerGate.Domain

/-- Whether a character may not stand in a domain, though it is one of ASCII. -/
def isForbidden (c : Char) : Bool :=
  c.toNat ≤ 0x20 || c.toNat = 0x7F ||
    ['%', '#', '/', ':', '<', '>', '?', '@', '[', '\\', ']', '^', '|'].contains c

/-- Whether all characters of a text are in ASCII. -/
def isAscii (text : List Char) : Bool :=
  text.all (·.toNat < 128)

/-- The mark of a label that stands for one in another script. -/
def encodedMark : List Char := ['x', 'n', '-', '-']

/-- The most characters of a label in another script. -/
def longestLabel : Nat := 1000

/-- The most characters behind the mark of a label in ASCII that stands for another. -/
def longestEncoded : Nat := 2000

/-- Whether a text is written as it is meant, so that encoding loses nothing. -/
def isAsMeant (text : List Char) : Bool :=
  text.all (treatment · = .kept) && normalForm text = text

/-- The label that a label stands for. One with the mark stands for a label in another script,
written as it is meant. -/
def meaning? (label : List Char) : Option (List Char) :=
  match Text.stripLead encodedMark label with
  | none => some label
  | some text =>
    if text.isEmpty || text.getLast? = some '-' || !isAscii text || longestEncoded < text.length
    then none
    else (Punycode.decode text).filter isAsMeant

/-- Whether a label may stand in a domain: it begins with no mark and has no idle joiners, and is
not too long to be encoded. -/
def isLabel (label : List Char) : Bool :=
  !label.head?.any isMark && areJoinersSeen [] label &&
    (isAscii label || label.length ≤ longestLabel)

/-- Whether labels may stand together in a domain. -/
def areLabels (labels : List (List Char)) : Bool :=
  labels.all isLabel && (!labels.any hasLeftward || labels.all isReadOneWay)

/-- A label in ASCII. -/
def labelInAscii (label : List Char) : List Char :=
  if isAscii label then label else encodedMark ++ Punycode.encode label

/-- The domain that a text denotes, as servers exchange it. -/
def inAscii? (text : List Char) : Option (List Char) := do
  let domain ← (meant? text).map normalForm
  let labels := Text.splitEach '.' domain
  let meanings ← labels.mapM meaning?
  if domain.any isForbidden || !areLabels meanings then none
  else pure (['.'].intercalate (labels.map labelInAscii))

end BearerGate.Domain
