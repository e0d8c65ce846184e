/-!
# Taking texts apart

Texts are lists of characters here; a mark is a character that stands between two parts.
-/

namespace BearerGate.Text

/-- The characters before and after the first `mark`. -/
def splitOnce (mark : Char) : List Char → Option (List Char × List Char)
  | [] => none
  | c :: rest =>
    if c = mark then some ([], rest)
    else (splitOnce mark rest).map fun parts => (c :: parts.1, parts.2)

/-- The characters after `lead`, if the text starts with it. -/
def stripLead : List Char → List Char → Option (List Char)
  | [], text => some text
  | _ :: _, [] => none
  | l :: lead, c :: text => if l = c then stripLead lead text else none

/-- The parts between the marks; there is one more of them than there are marks. -/
def splitEach (mark : Char) : List Char → List (List Char)
  | [] => [[]]
  | c :: rest =>
    if c = mark then [] :: splitEach mark rest
    else
      match splitEach mark rest with
      | [] => [[c]]
      | part :: parts => (c :: part) :: parts

end BearerGate.Text
