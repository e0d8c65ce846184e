import BearerGate.Text.Digit
import BearerGate.Text.Unprinted

/-!
# Quoted text

Text in quotation marks, the way messages show names and values that came from outside.

Quotation marks, backslashes, line ends, tabs and the zero character are written with a backslash;
every other character that would not be seen is written as its number in braces.
-/

namespace BearerGate.Text

/-- One character between quotation marks. -/
def quoteChar (c : Char) : List Char :=
  if c = '"' then ['\\', '"']
  else if c = '\\' then ['\\', '\\']
  else if c = '\n' then ['\\', 'n']
  else if c = '\r' then ['\\', 'r']
  else if c = '\t' then ['\\', 't']
  else if c = Char.ofNat 0 then ['\\', '0']
  else if isUnprinted c then ['\\', 'u', '\x7b'] ++ hexDigits c.toNat ++ ['\x7d']
  else [c]

/-- The text between quotation marks. -/
def quote (s : String) : String :=
  String.ofList ('"' :: s.toList.flatMap quoteChar ++ ['"'])

end BearerGate.Text
