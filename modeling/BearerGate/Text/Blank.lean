/-!
# Blank characters

Blank characters (the Unicode property White_Space) and text without them at its ends.
-/

namespace BearerGate.Text

/-- Whether the character is white space: tab to carriage return, space, next line, no-break
space, and the spaces and separators of the higher planes. -/
def isBlank (c : Char) : Bool :=
  let n := c.toNat
  (9 ≤ n && n ≤ 13) || n = 0x20 || n = 0x85 || n = 0xA0 || n = 0x1680 ||
    (0x2000 ≤ n && n ≤ 0x200A) || n = 0x2028 || n = 0x2029 || n = 0x202F || n = 0x205F || n = 0x3000

/-- The characters without the blank ones at either end. -/
def trimChars (cs : List Char) : List Char :=
  ((cs.dropWhile isBlank).reverse.dropWhile isBlank).reverse

/-- The text without the blank characters at either end. -/
def trim (s : String) : String :=
  String.ofList (trimChars s.toList)

/-- Whether the text has no character that is not blank. -/
def isBlankText (s : String) : Bool :=
  s.toList.all isBlank

/-- An upper-case ASCII letter in lower case; other characters stay as they are. -/
def lowerAscii (c : Char) : Char :=
  if 'A' ≤ c ∧ c ≤ 'Z' then Char.ofNat (c.toNat + 32) else c

/-- The text with its ASCII letters in lower case. -/
def lowerText (s : String) : String :=
  String.ofList (s.toList.map lowerAscii)

/-- The text without the slashes at its end. -/
def dropTrailingSlashes (s : String) : String :=
  String.ofList (s.toList.reverse.dropWhile (· = '/')).reverse

end BearerGate.Text
