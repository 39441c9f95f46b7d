/-!
Why a text is not the document that is asked for.
-/

namespace ServerLogin

/-- The reasons for refusing a document. -/
inductive YamlFault
  | forbiddenCharacter
  | malformedToken
  | malformedStructure
  | unknownAnchor
  | severalDocuments
  | unexpectedKind
  | invalidValue (field : String)
  | repeatedField (field : String)
deriving DecidableEq, Repr

def YamlFault.message : YamlFault → String
  | .forbiddenCharacter => "control characters are not allowed"
  | .malformedToken => "found a text that begins no token"
  | .malformedStructure => "did not find the expected node"
  | .unknownAnchor => "unknown anchor"
  | .severalDocuments => "more than one document"
  | .unexpectedKind => "expected a mapping"
  | .invalidValue field => field ++ ": invalid value"
  | .repeatedField field => "duplicate field " ++ field

end ServerLogin
