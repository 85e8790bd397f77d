import Concord.Source.Position

/-!
# Tokens

The smallest parts of a line.  Text that can be no part of a line still becomes a token, which holds
what is wrong with it.
-/

namespace Concord.Source

/-- Why a stretch of text is no part of a line. -/
inductive LexicalFault where
  /-- A character that begins nothing. -/
  | unexpectedCharacter (c : Char)
  | unterminatedString
  deriving DecidableEq, Repr

def LexicalFault.message : LexicalFault → String
  | unexpectedCharacter c => "unexpected character '" ++ c.toString ++ "'"
  | unterminatedString => "unterminated string literal"

/-- What a token is. -/
inductive TokenKind where
  /-- A run of alphabetic characters. -/
  | identifier (name : String)
  | quoted (text : String)
  | openBracket
  | closeBracket
  | openAngle
  | closeAngle
  | endOfInput
  | fault (cause : LexicalFault)
  deriving DecidableEq, Repr

namespace TokenKind

/-- What messages call a token of this kind. -/
def name : TokenKind → String
  | identifier _ => "identifier"
  | quoted _ => "string literal"
  | openBracket => "'['"
  | closeBracket => "']'"
  | openAngle => "'<'"
  | closeAngle => "'>'"
  | endOfInput => "end of input"
  | fault _ => "error"

/-- The text that a token carries beside its kind. -/
def value? : TokenKind → Option String
  | identifier name => some name
  | quoted text => some text
  | fault cause => some cause.message
  | _ => none

end TokenKind

/-- A token and the stretch of the source that it covers. -/
structure Token where
  kind : TokenKind
  span : Span
  deriving DecidableEq, Repr

end Concord.Source
