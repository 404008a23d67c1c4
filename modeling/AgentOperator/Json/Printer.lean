import AgentOperator.Json.Basic
import AgentOperator.Text.Digit

/-!
# Compact JSON text

A value is written without blanks and its fields in their order. Strings use the
shortest escapes: quotes, backslashes and control characters are escaped, and
everything else stands for itself. A part that stands for no value is written as
null.
-/

namespace AgentOperator.Json

def escapedChar (c : Char) : List Char :=
  if c = '"' then ['\\', '"']
  else if c = '\\' then ['\\', '\\']
  else if c = '\n' then ['\\', 'n']
  else if c = '\r' then ['\\', 'r']
  else if c = '\t' then ['\\', 't']
  else if c = '\x08' then ['\\', 'b']
  else if c = '\x0c' then ['\\', 'f']
  else if c.toNat < 0x20 then
    ['\\', 'u', '0', '0', Text.hexDigit (c.toNat / 16), Text.hexDigit (c.toNat % 16)]
  else [c]

def stringText (s : String) : String :=
  String.ofList ('"' :: s.toList.flatMap escapedChar ++ ['"'])

mutual

def text : Json → String
  | null => "null"
  | bool true => "true"
  | bool false => "false"
  | int n => toString n
  | real x => x.text
  | str s => stringText s
  | arr elements => "[" ++ String.intercalate "," (elementTexts elements) ++ "]"
  | obj fields => "\x7b" ++ String.intercalate "," (fieldTexts fields) ++ "\x7d"
  | unreadable => "null"

def elementTexts : List Json → List String
  | [] => []
  | element :: rest => text element :: elementTexts rest

def fieldTexts : List (String × Json) → List String
  | [] => []
  | (key, value) :: rest => (stringText key ++ ":" ++ text value) :: fieldTexts rest

end

end AgentOperator.Json
