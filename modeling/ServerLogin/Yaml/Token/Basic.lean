import ServerLogin.Yaml.Character
import ServerLogin.Yaml.Fault

/-!
The tokens of a document.
-/

namespace ServerLogin.Yaml

/-- How a scalar is written. -/
inductive Style
  | plain
  | singleQuoted
  | doubleQuoted
  | literal
  | folded
deriving DecidableEq, Repr

inductive Token
  | versionDirective (major minor : Nat)
  | tagDirective (handle start : String)
  | documentStart
  | documentEnd
  | blockSequenceStart
  | blockMappingStart
  | blockEnd
  | flowSequenceStart
  | flowSequenceEnd
  | flowMappingStart
  | flowMappingEnd
  | blockEntry
  | flowEntry
  | key
  | value
  | alias (name : String)
  | anchor (name : String)
  | tag (handle suffix : String)
  | scalar (text : String) (style : Style)
  | streamEnd
deriving DecidableEq, Repr

end ServerLogin.Yaml
