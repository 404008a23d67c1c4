import AgentOperator.Text.Digit
import AgentOperator.Text.Printable

/-!
# Quoted text

A text between double quotes in which every character can be seen: the quote and
the backslash are escaped, line ends and tabs have short escapes, and whatever
has no mark of its own is written as `\u` with its code point in braces.
-/

namespace AgentOperator.Text

def quotedChar (c : Char) : List Char :=
  if c = '\x00' then ['\\', '0']
  else if c = '\t' then ['\\', 't']
  else if c = '\n' then ['\\', 'n']
  else if c = '\r' then ['\\', 'r']
  else if c = '"' then ['\\', '"']
  else if c = '\\' then ['\\', '\\']
  else if isPrintable c then [c]
  else ['\\', 'u', '\x7b'] ++ (hexText c.toNat).toList ++ ['\x7d']

def quoted (s : String) : String :=
  String.ofList ('"' :: s.toList.flatMap quotedChar ++ ['"'])

end AgentOperator.Text
