/-!
# Blank text

White space in the sense of the Unicode property `White_Space`, and the two
questions the library asks about it: whether a text is blank, and what remains
of it once both ends are trimmed.
-/

namespace AgentOperator.Text

def isBlank (c : Char) : Bool :=
  let n := c.toNat
  (0x09 ≤ n && n ≤ 0x0D) || n == 0x20 || n == 0x85 || n == 0xA0 || n == 0x1680 ||
    (0x2000 ≤ n && n ≤ 0x200A) || n == 0x2028 || n == 0x2029 || n == 0x202F ||
    n == 0x205F || n == 0x3000

/-- A text is blank when it holds nothing but white space. -/
def isBlankText (s : String) : Bool :=
  s.toList.all isBlank

def given? (text : Option String) : Option String :=
  text.filter fun s => !isBlankText s

def trimEnd (cs : List Char) : List Char :=
  (cs.reverse.dropWhile isBlank).reverse

/-- Drop white space at both ends of a text. -/
def trim (cs : List Char) : List Char :=
  trimEnd (cs.dropWhile isBlank)

@[simp] theorem trim_nil : trim [] = [] := rfl

end AgentOperator.Text
