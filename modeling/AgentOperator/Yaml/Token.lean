import AgentOperator.Yaml.Cursor
import AgentOperator.Yaml.Tag

/-!
# Tokens of YAML text

What the characters of a text are cut into: the content of its scalars, the
properties of its nodes, and the structure that indicators and indentation give.
-/

namespace AgentOperator.Yaml

/-- How a scalar is written: only a plain one can be other than text. -/
inductive Style
  | plain
  | quoted
deriving DecidableEq, Repr, Inhabited

inductive Token
  | streamEnd
  | versionDirective (major minor : Nat)
  | tagDirective (handle : String) (replacement : Tag)
  | documentStart
  | documentEnd
  | blockSequenceStart
  | blockMappingStart
  | blockEnd
  | flowSequenceStart
  | flowSequenceEnd
  | flowMappingStart
  | flowMappingEnd
  | blockEntry
  | flowEntry
  | key
  | value
  | alias (name : String)
  | anchor (name : String)
  | tag (handle : String) (suffix : Tag)
  | scalar (text : String) (style : Style)
deriving DecidableEq, Repr, Inhabited

end AgentOperator.Yaml
