import Concord.Error
import Concord.Parsing.Vocabulary

/-!
# Syntax errors

Where a line departs from the grammar, and how.
-/

namespace Concord.Parsing

open Source (LexicalFault Position Token TokenKind)

/-- What the grammar asks for at a place. -/
inductive Expectation where
  | expression
  /-- What may follow a command. -/
  | argument
  /-- What may follow a string that is a line of its own. -/
  | endOfInput
  | closing (category : Category)
  deriving DecidableEq, Repr

/-- The expectation in words. -/
def Expectation.description : Expectation → String
  | expression => "verb or string literal"
  | argument => "string literal or end of input"
  | endOfInput => "end of input"
  | closing category => category.closingKind.name

/-- How a line departs from the grammar. -/
inductive SyntaxFault where
  | lexical (cause : LexicalFault)
  | unexpected (expected : Expectation) (found : TokenKind)
  | missingName (category : Category)
  | unknownName (category : Category) (name : String)
  deriving DecidableEq, Repr

namespace SyntaxFault

def message : SyntaxFault → String
  | lexical cause => cause.message
  | unexpected expected found => "expected " ++ expected.description ++ ", found " ++ found.name
  | missingName category => "missing " ++ category.word ++ " name"
  | unknownName category name => "unknown " ++ category.word ++ " name '" ++ name ++ "'"

/-- The fault of a name that is not in the vocabulary. -/
def ofName (category : Category) (name : String) : SyntaxFault :=
  if name = "" then missingName category else unknownName category name

/-- The fault of a token that stands where something else is expected. -/
def ofToken (expected : Expectation) : TokenKind → SyntaxFault
  | .fault cause => lexical cause
  | found => unexpected expected found

end SyntaxFault

/-- A fault and its place. -/
structure SyntaxError where
  fault : SyntaxFault
  position : Position
  deriving DecidableEq, Repr

namespace SyntaxError

/-- The error of a token that stands where something else is expected. -/
def ofToken (expected : Expectation) (token : Token) : SyntaxError :=
  ⟨.ofToken expected token.kind, token.span.start⟩

/-- The line of the source on which a place lies. -/
def sourceLine (source : String) (position : Position) : String :=
  match Text.splitAtByte? source.toList position.offset with
  | some (before, after) => String.ofList (Text.lineAround before after)
  | none => ""

/-- The error as it is reported, together with the line of the source on which it lies. -/
def toError (source : String) (error : SyntaxError) : Error :=
  .ofKind (.parse error.fault.message error.position.line error.position.column
    (sourceLine source error.position))

end SyntaxError

end Concord.Parsing
