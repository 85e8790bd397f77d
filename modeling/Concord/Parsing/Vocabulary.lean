import Concord.Grammar.Case
import Concord.Grammar.Mood
import Concord.Source.Token

/-!
# Vocabularies

A string may be annotated with a case and a verb with a mood.  The two kinds of annotation differ
only in their delimiters and in the names they know, so that one rule reads both.
-/

namespace Concord.Parsing

open Source (TokenKind)

/-- What an annotation names. -/
inductive Category where
  | grammaticalCase
  | grammaticalMood
  deriving DecidableEq, Repr

namespace Category

/-- What messages call the category. -/
def word : Category → String
  | grammaticalCase => "case"
  | grammaticalMood => "mood"

/-- The character that closes an annotation. -/
def closing : Category → Char
  | grammaticalCase => ']'
  | grammaticalMood => '>'

/-- The token that opens an annotation. -/
def openingKind : Category → TokenKind
  | grammaticalCase => .openBracket
  | grammaticalMood => .openAngle

/-- The token that closes an annotation. -/
def closingKind : Category → TokenKind
  | grammaticalCase => .closeBracket
  | grammaticalMood => .closeAngle

end Category

/-- The names of a category, and what is meant where no known name stands. -/
structure Vocabulary (tag : Type) where
  category : Category
  resolve : String → Option tag
  /-- What stands for an absent name, and for an unknown one if that is allowed. -/
  fallback : tag

/-- The names of the cases.  A string is nominative unless something else is said. -/
def cases : Vocabulary Case :=
  ⟨.grammaticalCase, Case.ofName?, .nominative⟩

/-- The names of the moods.  A command is imperative unless something else is said. -/
def moods : Vocabulary Mood :=
  ⟨.grammaticalMood, Mood.ofName?, .imperative⟩

/-- What to do with a name that is not in the vocabulary. -/
inductive AnnotationPolicy where
  | lenient
  | strict
  deriving DecidableEq, Repr

instance : Inhabited AnnotationPolicy := ⟨.lenient⟩

/-- The name of a policy. -/
def AnnotationPolicy.name : AnnotationPolicy → String
  | lenient => "Lenient"
  | strict => "Strict"

/-- A name for which the fallback has been taken. -/
structure Fallback where
  category : Category
  /-- The name, without the blanks around it. -/
  name : String
  deriving DecidableEq, Repr

end Concord.Parsing
