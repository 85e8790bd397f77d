import Concord.Expr.Basic
import Concord.Parsing.SyntaxError
import Concord.Source.Lexer

/-!
# Parsing a line

A line is one expression:

* a verb, perhaps with its mood, and then any number of strings; or
* a single string.

Each string may be followed by its case.  The first token tells the two apart, so a line is read
from left to right without turning back.  What is read leaves the cursor before the token that comes
next, also when it fails.
-/

namespace Concord.Parsing

open Source (Cursor Position)

/-- What has been read so far: a result or the error, where reading goes on, and the fallbacks taken. -/
structure Parsed (result : Type) where
  result : Except SyntaxError result
  /-- The cursor before the token that comes next. -/
  rest : Cursor
  /-- The names for which a fallback was taken, in order. -/
  fallbacks : List Fallback

namespace Parsed

/-- Read on behind a result. -/
def andThen
    (parsed : Parsed first)
    (next : first → Cursor → Parsed second) :
    Parsed second :=
  match parsed.result with
  | .error error => ⟨.error error, parsed.rest, parsed.fallbacks⟩
  | .ok result =>
    let others := next result parsed.rest
    ⟨others.result, others.rest, parsed.fallbacks ++ others.fallbacks⟩

/-- Change a result. -/
def map (change : first → second) (parsed : Parsed first) : Parsed second :=
  ⟨parsed.result.map change, parsed.rest, parsed.fallbacks⟩

/-- A result for which nothing more has to be read. -/
def done (result : tag) (rest : Cursor) : Parsed tag :=
  ⟨.ok result, rest, []⟩

/-- An error before the rest. -/
def failed (error : SyntaxError) (rest : Cursor) : Parsed tag :=
  ⟨.error error, rest, []⟩

end Parsed

/-- What the name of an annotation stands for.  The name begins at `place`. -/
def resolveName
    (vocabulary : Vocabulary tag)
    (policy : AnnotationPolicy)
    (name : String)
    (place : Position)
    (rest : Cursor) :
    Parsed tag :=
  match vocabulary.resolve name with
  | some known => .done known rest
  | none =>
    match policy with
    | .lenient => ⟨.ok vocabulary.fallback, rest, [⟨vocabulary.category, name⟩]⟩
    | .strict => .failed ⟨.ofName vocabulary.category name, place⟩ rest

/-- An annotation, from the cursor behind its opening delimiter. -/
def parseDelimited
    (vocabulary : Vocabulary tag)
    (policy : AnnotationPolicy)
    (cursor : Cursor) :
    Parsed tag :=
  let name := cursor.annotationText vocabulary.category.closing
  let closing := name.next.peek
  if closing.kind = vocabulary.category.closingKind then
    resolveName vocabulary policy (Text.trim name.text) name.span.start name.next.nextToken.2
  else
    .failed (.ofToken (.closing vocabulary.category) closing) name.next

/-- An annotation, if there is one. -/
def parseTag
    (vocabulary : Vocabulary tag)
    (policy : AnnotationPolicy)
    (cursor : Cursor) :
    Parsed tag :=
  if cursor.peek.kind = vocabulary.category.openingKind then
    parseDelimited vocabulary policy cursor.nextToken.2
  else
    .done vocabulary.fallback cursor

theorem rest_resolveName
    (vocabulary : Vocabulary tag)
    (policy : AnnotationPolicy)
    (name : String)
    (place : Position)
    (rest : Cursor) :
    (resolveName vocabulary policy name place rest).rest = rest := by
  unfold resolveName
  split
  · rfl
  · split <;> rfl

theorem length_parseDelimited_le
    (vocabulary : Vocabulary tag)
    (policy : AnnotationPolicy)
    (cursor : Cursor) :
    (parseDelimited vocabulary policy cursor).rest.rest.length ≤ cursor.rest.length := by
  have shorter := cursor.length_annotationText_le vocabulary.category.closing
  simp only [parseDelimited]
  split
  · rw [rest_resolveName]
    exact Nat.le_trans (Cursor.length_nextToken_le _) shorter
  · exact shorter

theorem length_parseTag_le
    (vocabulary : Vocabulary tag)
    (policy : AnnotationPolicy)
    (cursor : Cursor) :
    (parseTag vocabulary policy cursor).rest.rest.length ≤ cursor.rest.length := by
  unfold parseTag
  split
  · exact Nat.le_trans (length_parseDelimited_le _ _ _) cursor.length_nextToken_le
  · exact Nat.le_refl _

/-- The strings ahead, each with its case. -/
def parseArguments (policy : AnnotationPolicy) (cursor : Cursor) : Parsed (List Expr) :=
  match _kind : cursor.peek.kind with
  | .quoted text =>
    let tag := parseTag cases policy cursor.nextToken.2
    match tag.result with
    | .error error => ⟨.error error, tag.rest, tag.fallbacks⟩
    | .ok found =>
      let others := parseArguments policy tag.rest
      ⟨others.result.map (.literal text found :: ·), others.rest, tag.fallbacks ++ others.fallbacks⟩
  | _ => .done [] cursor
termination_by cursor.rest.length
decreasing_by
  exact Nat.lt_of_le_of_lt (length_parseTag_le _ _ _)
    (cursor.length_nextToken_lt (by simp [_kind]))

/-- The expression ahead. -/
def parseExpression (policy : AnnotationPolicy) (cursor : Cursor) : Parsed Expr :=
  match cursor.peek.kind with
  | .identifier verb =>
    (parseTag moods policy cursor.nextToken.2).andThen fun mood rest =>
      (parseArguments policy rest).map (.command verb mood)
  | .quoted text => (parseTag cases policy cursor.nextToken.2).map (.literal text)
  | _ => .failed (.ofToken .expression cursor.peek) cursor

/-- An expression at the end of the source. -/
def parseAtEnd (expression : Expr) (rest : Cursor) : Parsed Expr :=
  if rest.peek.kind = .endOfInput then
    .done expression rest
  else
    .failed (.ofToken (if expression.isCommand then .argument else .endOfInput) rest.peek) rest

/-- The expression ahead, which must be all that is ahead. -/
def parseRest (policy : AnnotationPolicy) (cursor : Cursor) : Parsed Expr :=
  (parseExpression policy cursor).andThen parseAtEnd

/-- A parser at work on a source. -/
structure Parser where
  source : String
  policy : AnnotationPolicy
  /-- The cursor before the token that comes next. -/
  cursor : Cursor

/-- What reading a line yields. -/
structure ParsedLine where
  result : Except Error Expr
  /-- The names for which a fallback was taken, in order. -/
  fallbacks : List Fallback

namespace Parser

/-- A parser that has not read anything yet. -/
def ofText (policy : AnnotationPolicy) (source : String) : Parser :=
  ⟨source, policy, .ofText source⟩

/-- Read a line, and leave the parser where it stopped. -/
def readLine (parser : Parser) : ParsedLine × Parser :=
  let parsed := parseRest parser.policy parser.cursor
  (⟨parsed.result.mapError (·.toError parser.source), parsed.fallbacks⟩,
    ⟨parser.source, parser.policy, parsed.rest⟩)

end Parser

/-- Read a text as a line. -/
def readLine (policy : AnnotationPolicy) (source : String) : ParsedLine :=
  (Parser.ofText policy source).readLine.1

/-- The expression that a text stands for as a line. -/
def parseLine (policy : AnnotationPolicy) (source : String) : Except Error Expr :=
  (readLine policy source).result

end Concord.Parsing
