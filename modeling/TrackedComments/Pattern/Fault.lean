/-!
# Faults of patterns

Why the notation of a pattern cannot be read.
-/

namespace TrackedComments.Pattern

/-- A fault in the notation of a pattern. -/
inductive SyntaxFault where
  | unclosedGroup
  | unopenedGroup
  | missingOperand
  | lookAround
  | badGroupName
  | repeatedGroupName
  | badFlags
  | badCount
  | unexpectedEnd
  | backReference
  | unknownEscape
  | badHexEscape
  | badWordBoundary
  | unknownProperty
  | unclosedClass
  | badClassItem
  | badClassRange
  | needsUnicode
  | matchesInvalidText
  | nestedTooDeep
  | tooLarge
  deriving DecidableEq, Repr, Inhabited

/-- The fault in words. -/
def SyntaxFault.message : SyntaxFault → String
  | unclosedGroup => "unclosed group"
  | unopenedGroup => "unopened group"
  | missingOperand => "repetition operator missing expression"
  | lookAround => "look-around is not supported"
  | badGroupName => "invalid capture group name"
  | repeatedGroupName => "duplicate capture group name"
  | badFlags => "invalid flags"
  | badCount => "invalid repetition count"
  | unexpectedEnd => "unexpected end of pattern"
  | backReference => "backreferences are not supported"
  | unknownEscape => "unrecognized escape sequence"
  | badHexEscape => "invalid hexadecimal escape"
  | badWordBoundary => "invalid word boundary assertion"
  | unknownProperty => "Unicode property not found"
  | unclosedClass => "unclosed character class"
  | badClassItem => "invalid item in character class"
  | badClassRange => "invalid character class range"
  | needsUnicode => "Unicode not allowed here"
  | matchesInvalidText => "pattern can match invalid UTF-8"
  | nestedTooDeep => "exceeds the maximum number of nested expressions"
  | tooLarge => "compiled pattern exceeds size limit"

end TrackedComments.Pattern
