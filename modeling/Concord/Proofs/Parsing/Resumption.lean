import Concord.Proofs.Parsing.ErrorPlaces
import Concord.Proofs.Parsing.SideBySide
import Concord.Proofs.Source.Strings

/-!
# Asking a parser again

A parser that is asked for another line goes on at the token where it stopped, also when it stopped
with an error.  It then does what a new parser does on the source from this token on, except that
places are counted from the beginning of the whole source.  Every call that moves on passes over a
character at least, and a call that does not move on is repeated by all later ones; so from some
call on nothing new happens.
-/

namespace Concord

namespace Source

open Text (Blanks byteLength isBlank)

/-- The place in a text of a place in its part from `base` on. -/
def Position.shifted (position base : Position) : Position :=
  ⟨base.offset + position.offset, base.line + position.line - 1,
    if position.line = 1 then base.column + position.column - 1 else position.column⟩

/-- Places that are kept from some place on are those kept from the start on, shifted. -/
theorem Position.after_eq_shifted (base : Position) (characters : List Char) :
    base.after characters = (start.after characters).shifted base := by
  induction characters using List.reverseRecOn with
  | nil => simp [shifted, start]
  | append_singleton characters c inductionHypothesis =>
    rcases names_after_start characters with ⟨line, column⟩
    rw [after_append, after_append, inductionHypothesis]
    generalize start.after characters = place at line column
    simp only [after_cons, after_nil, next]
    split
    · simp only [shifted, line, Nat.add_assoc, mk.injEq, true_and]
      split <;> omega
    · simp only [shifted, line, column, Nat.add_assoc, mk.injEq, true_and]
      split <;> omega

namespace Cursor

variable {cursor next : Cursor} {passed : List Char}

/-- The cursor at the next token, behind the blanks in front of it. -/
def atToken (cursor : Cursor) : Cursor :=
  cursor.dropWhile isBlank

theorem passes_atToken (cursor : Cursor) :
    ∃ blanks, Blanks blanks ∧ cursor.Passes blanks cursor.atToken := by
  rcases cursor.passes_token with ⟨blanks, covered, blank, lexeme, skipped, passes⟩
  exact ⟨blanks, blank, skipped⟩

theorem position_atToken (cursor : Cursor) : cursor.peek.span.start = cursor.atToken.position :=
  rfl

theorem atToken_of_stops (stops : ∀ c ∈ cursor.rest.head?, isBlank c = false) :
    cursor.atToken = cursor := by
  cases ahead : cursor.rest with
  | nil => rw [atToken, dropWhile, takeWhile_of_ended ahead]
  | cons c rest =>
    have first : cursor.rest.head? = some c := by rw [ahead, List.head?_cons]
    exact dropWhile_of_stops first (stops c first)

theorem atToken_stops (cursor : Cursor) :
    ∀ c ∈ cursor.atToken.rest.head?, isBlank c = false :=
  ((cursor.takeWhile_iff isBlank _ _).mp ⟨rfl, rfl⟩).2.2

@[simp]
theorem atToken_atToken (cursor : Cursor) : cursor.atToken.atToken = cursor.atToken :=
  atToken_of_stops cursor.atToken_stops

theorem nextToken_atToken (cursor : Cursor) : cursor.atToken.nextToken = cursor.nextToken := by
  rw [nextToken, ← atToken, atToken_atToken]
  rfl

theorem peek_atToken (cursor : Cursor) : cursor.atToken.peek = cursor.peek := by
  rw [peek, peek, nextToken_atToken]

theorem atToken_of_blanks (passes : cursor.Passes passed next) (blank : Blanks passed) :
    cursor.atToken = next.atToken :=
  dropWhile_of_passes passes blank

/-- A cursor that has moved forward is at the same token, or at one that is further on. -/
theorem Passes.atToken (passes : cursor.Passes passed next) :
    ∃ between, cursor.atToken.Passes between next.atToken := by
  have split : passed.takeWhile isBlank = _ ∧ passed.dropWhile isBlank = _ := ⟨rfl, rfl⟩
  rcases Text.split_iff.mp split with ⟨whole, blank, stops⟩
  rw [whole] at passes
  rcases passes.split with ⟨middle, skipped, others⟩
  rw [atToken_of_blanks skipped blank]
  cases behind : passed.dropWhile isBlank with
  | nil =>
    rw [behind] at others
    rw [atToken_of_blanks others Text.blanks_nil]
    exact ⟨[], .refl _⟩
  | cons c more =>
    rw [behind] at others stops
    have visible : middle.atToken = middle := by
      apply atToken_of_stops
      rw [others.rest]
      exact stops
    rcases next.passes_atToken with ⟨blanks, -, skippedToo⟩
    exact ⟨_, visible.symm ▸ others.trans skippedToo⟩

/-- A cursor that has moved to a token with the same place has not moved past a token. -/
theorem Passes.atToken_eq (passes : cursor.Passes passed next)
    (same : next.peek.span.start = cursor.peek.span.start) : next.atToken = cursor.atToken := by
  rcases passes.atToken with ⟨between, moved⟩
  have offset := congrArg Position.offset same
  rw [position_atToken, position_atToken, moved.position, Position.offset_after] at offset
  have nothing : between = [] := by
    by_contra more
    have longer := Text.byteLength_pos more
    omega
  subst nothing
  exact moved.unique (.refl _) moved.rest.symm

end Cursor

/-! ## The same text at another place -/

/-- Characters stand for themselves, and a place for the one as far behind `base`. -/
def moved (base : Position) : Likeness where
  alike := Eq
  placed place other := ∃ characters,
    place = Position.start.after characters ∧ other = base.after characters
  refl _ := rfl
  letters := .inl
  next := by
    rintro c _ _ _ rfl ⟨characters, rfl, rfl⟩
    exact ⟨characters ++ [c], by simp, by simp⟩

section Moved

variable {base : Position}

theorem names_moved {name other : String} (names : (moved base).Names name other) :
    name = other := by
  rw [← String.toList_inj]
  exact List.forall₂_eq_eq_eq ▸ names

theorem texts_moved {characters others : List Char}
    (texts : (moved base).Texts characters others) : characters = others := by
  induction texts with
  | nil => rfl
  | character alike _ _ inductionHypothesis => rw [(alike : _ = _), inductionHypothesis]
  | string _ _ inductionHypothesis => rw [inductionHypothesis]
  | unterminated => rfl

theorem kinds_moved {kind other : TokenKind} (kinds : (moved base).Kinds kind other) :
    kind = other := by
  cases kinds with
  | same => rfl
  | identifier names => rw [names_moved names]

end Moved

end Source

namespace Parsing

open Source (Cursor Likeness Position moved names_moved texts_moved kinds_moved)
open Text (Blanks isBlank)

/-- The error of a text in another one, in which this text begins at `base`. -/
def SyntaxError.shifted (error : SyntaxError) (base : Position) : SyntaxError :=
  ⟨error.fault, error.position.shifted base⟩

section Moved

variable {base : Position}

theorem eq_shifted_of_like {error other : SyntaxError} (like : error.Like (moved base) other) :
    other = error.shifted base := by
  rcases error with ⟨fault, place⟩
  rcases other with ⟨otherFault, otherPlace⟩
  rcases like with ⟨faults, characters, here, there⟩
  have same : fault = otherFault := by
    cases faults with
    | same => rfl
    | unexpected kinds => rw [kinds_moved kinds]
    | unknownName names => rw [names_moved names]
  have position : otherPlace = place.shifted base := by
    rw [show place = _ from here, ← Position.after_eq_shifted]
    exact there
  rw [position, ← same, SyntaxError.shifted]

theorem eq_of_exprLike {expression other : Expr} (like : ExprLike (moved base) expression other) :
    expression = other := by
  cases like with
  | literal => rfl
  | command names => rw [names_moved names]

theorem eq_of_fallbacksLike {fallbacks others : List Fallback}
    (like : List.Forall₂ (Fallback.Like (moved base)) fallbacks others) : fallbacks = others := by
  rw [← List.forall₂_eq_eq_eq]
  refine like.imp fun fallback other same => ?_
  rcases fallback with ⟨category, name⟩
  rcases other with ⟨otherCategory, otherName⟩
  rcases same with ⟨sameCategory, names⟩
  exact Fallback.mk.injEq .. ▸ ⟨sameCategory, names_moved names⟩

theorem keepsNames_moved (base : Position) : KeepsNames (moved base) where
  cases _ _ names := congrArg _ (names_moved names)
  moods _ _ names := congrArg _ (names_moved names)

end Moved

/-- Reading from some place on is reading the rest as a text by itself, with shifted errors. -/
theorem parseRest_eq_shifted (policy : AnnotationPolicy) (cursor : Cursor) :
    let later := parseRest policy cursor
    let fresh := parseRest policy ⟨cursor.rest, Position.start⟩
    later.result = fresh.result.mapError (·.shifted cursor.position) ∧
      (moved cursor.position).Cursors fresh.rest later.rest ∧
      later.fallbacks = fresh.fallbacks := by
  intro later fresh
  have cursors : (moved cursor.position).Cursors ⟨cursor.rest, Position.start⟩ cursor :=
    ⟨.refl _ _, [], rfl, rfl⟩
  have like : fresh.Like (moved cursor.position) _ later :=
    parseRest_like (keepsNames_moved _) policy cursors
  refine ⟨?_, like.rest, (eq_of_fallbacksLike like.fallbacks).symm⟩
  have results := like.result
  generalize fresh.result = result at results
  generalize later.result = other at results
  cases results with
  | ok expressions => rw [eq_of_exprLike expressions]; rfl
  | error errors => rw [eq_shifted_of_like errors]; rfl

/-- Only what is left is different when the blanks in front of the first token have been skipped. -/
theorem parseRest_atToken (policy : AnnotationPolicy) (cursor : Cursor) :
    let parsed := parseRest policy cursor
    let other := parseRest policy cursor.atToken
    parsed.result = other.result ∧ parsed.fallbacks = other.fallbacks ∧
      parsed.rest.atToken = other.rest.atToken := by
  have same : cursor.atToken.nextToken = cursor.nextToken := cursor.nextToken_atToken
  simp only [parseRest, parseExpression, Cursor.peek, same]
  split
  · exact ⟨rfl, rfl, rfl⟩
  · exact ⟨rfl, rfl, rfl⟩
  · exact ⟨rfl, rfl, cursor.atToken_atToken.symm⟩

/-- At the end of the source, no expression is ahead. -/
theorem parseRest_of_ended (policy : AnnotationPolicy) {cursor : Cursor}
    (ended : cursor.rest = []) :
    parseRest policy cursor =
      .failed ⟨.unexpected .expression .endOfInput, cursor.position⟩ cursor := by
  have stays : cursor.dropWhile isBlank = cursor := by
    rw [Cursor.dropWhile, Cursor.takeWhile_of_ended ended]
  have token := Cursor.nextToken_of_ended ended
  have place : cursor.peek.span.start = cursor.position := congrArg Cursor.position stays
  have kind : cursor.peek.kind = .endOfInput := by rw [Cursor.peek, token]
  have expression : parseExpression policy cursor =
      .failed (.ofToken .expression cursor.peek) cursor := by
    simp only [parseExpression, kind]
  rw [parseRest, expression, SyntaxError.ofToken, kind, place]
  rfl

/-! ## The token at which a parser stands -/

namespace Parser

variable {parser other : Parser}

/-- The token that comes next. -/
def current (parser : Parser) : Source.Token :=
  parser.cursor.peek

/-- The cursor right at the current token. -/
def ahead (parser : Parser) : Cursor :=
  parser.cursor.atToken

/-- A parser stands at the same token as another one, in the same source. -/
structure SamePlace (parser other : Parser) : Prop where
  source : parser.source = other.source
  policy : parser.policy = other.policy
  ahead : parser.ahead = other.ahead

theorem SamePlace.current (same : parser.SamePlace other) : parser.current = other.current := by
  rw [Parser.current, Parser.current, ← parser.cursor.peek_atToken, ← other.cursor.peek_atToken]
  exact congrArg Cursor.peek same.ahead

/-- The token at which a parser stands is all that its past bears on what it reads. -/
theorem SamePlace.readLine (same : parser.SamePlace other) :
    parser.readLine.1 = other.readLine.1 ∧ parser.readLine.2.SamePlace other.readLine.2 := by
  rcases parser with ⟨source, policy, cursor⟩
  rcases other with ⟨otherSource, otherPolicy, otherCursor⟩
  rcases same with ⟨rfl, rfl, sameToken⟩
  rcases parseRest_atToken policy cursor with ⟨result, fallbacks, rest⟩
  rcases parseRest_atToken policy otherCursor with ⟨otherResult, otherFallbacks, otherRest⟩
  have token : cursor.atToken = otherCursor.atToken := sameToken
  rw [token] at result fallbacks rest
  refine ⟨?_, rfl, rfl, rest.trans otherRest.symm⟩
  simp only [Parser.readLine, result, fallbacks, otherResult, otherFallbacks]

theorem SamePlace.refl (parser : Parser) : parser.SamePlace parser :=
  ⟨rfl, rfl, rfl⟩

theorem SamePlace.symm (same : parser.SamePlace other) : other.SamePlace parser :=
  ⟨same.source.symm, same.policy.symm, same.ahead.symm⟩

theorem SamePlace.trans {last : Parser} (first : parser.SamePlace other)
    (second : other.SamePlace last) : parser.SamePlace last :=
  ⟨first.source.trans second.source, first.policy.trans second.policy,
    first.ahead.trans second.ahead⟩

theorem afterLines_add (parser : Parser) (first second : Nat) :
    parser.afterLines (first + second) = (parser.afterLines first).afterLines second := by
  induction second with
  | zero => rfl
  | succ second inductionHypothesis =>
    rw [← Nat.add_assoc, afterLines, inductionHypothesis, afterLines]

/-! ## Moving on -/

/-- Reading a line leads to the same token or to one that is further on. -/
theorem ahead_passes (parser : Parser) :
    ∃ between, parser.ahead.Passes between parser.readLine.2.ahead := by
  rcases parser.readLine_passes with ⟨passed, passes⟩
  exact passes.atToken

/-- A parser that still has the same current token has not moved on. -/
theorem samePlace_of_current (same : parser.readLine.2.current = parser.current) :
    parser.readLine.2.SamePlace parser := by
  rcases parser.readLine_passes with ⟨passed, passes⟩
  exact ⟨rfl, rfl, passes.atToken_eq (congrArg (·.span.start) same)⟩

/-- Reading a line leads past a character, or nowhere. -/
theorem samePlace_or_shorter (parser : Parser) :
    parser.readLine.2.SamePlace parser ∨
      parser.readLine.2.ahead.rest.length < parser.ahead.rest.length := by
  rcases parser.ahead_passes with ⟨between, passes⟩
  cases between with
  | nil => exact .inl ⟨rfl, rfl, passes.unique (.refl _) passes.rest.symm⟩
  | cons c between =>
    right
    rw [passes.rest, List.length_append, List.length_cons]
    omega

/-- A call that leads nowhere is repeated by all later ones. -/
theorem samePlace_afterLines (stays : parser.readLine.2.SamePlace parser) (calls : Nat) :
    (parser.afterLines calls).SamePlace parser := by
  induction calls with
  | zero => exact .refl parser
  | succ calls inductionHypothesis => exact inductionHypothesis.readLine.2.trans stays

theorem samePlace_of_le {calls later : Nat}
    (stays : (parser.afterLines calls).readLine.2.SamePlace (parser.afterLines calls))
    (order : calls ≤ later) : (parser.afterLines later).SamePlace (parser.afterLines calls) := by
  obtain ⟨more, rfl⟩ := Nat.exists_eq_add_of_le order
  rw [afterLines_add]
  exact samePlace_afterLines stays more

/-- After as many calls as there are characters ahead, a call leads nowhere. -/
theorem settles {calls : Nat} (few : parser.ahead.rest.length ≤ calls) :
    (parser.afterLines calls).readLine.2.SamePlace (parser.afterLines calls) := by
  induction calls generalizing parser with
  | zero =>
    rcases parser.samePlace_or_shorter with stays | shorter
    · exact stays
    · omega
  | succ calls inductionHypothesis =>
    rcases parser.samePlace_or_shorter with stays | shorter
    · have before := samePlace_afterLines stays (calls + 1)
      have behind := samePlace_afterLines stays (calls + 2)
      exact behind.trans before.symm
    · have fewer : parser.readLine.2.ahead.rest.length ≤ calls := by omega
      rw [Nat.add_comm, afterLines_add]
      exact inductionHypothesis fewer

/-! ## What a parser reads -/

/-- Where a parser stands in a source that it has read from the beginning. -/
theorem exists_ahead (policy : AnnotationPolicy) (source : String) (calls : Nat) :
    let parser := (ofText policy source).afterLines calls
    ∃ before, source.toList = before ++ parser.ahead.rest ∧
      parser.ahead.position = Position.start.after before := by
  intro parser
  rcases (ofText policy source).afterLines_passes calls with ⟨-, -, passed, passes⟩
  rcases parser.cursor.passes_atToken with ⟨blanks, -, skipped⟩
  have whole := passes.trans skipped
  exact ⟨passed ++ blanks, whole.rest, whole.position⟩

/-- A place in a text, and the same place in another text in which it begins at `base`. -/
def Corresponds (base : Position) (part : String) (here there : Position) : Prop :=
  ∃ front behind, part.toList = front ++ behind ∧ here = Position.start.after front ∧
    there = base.after front

/-- The same result from a text and from another one in which it begins at `base`. -/
inductive Restated (base : Position) (part whole : String) :
    Except Error Expr → Except Error Expr → Prop
  | ok : Restated base part whole (.ok expression) (.ok expression)
  | error (fault : SyntaxFault) (places : Corresponds base part here there) :
    Restated base part whole
      (.error (SyntaxError.toError part ⟨fault, here⟩))
      (.error (SyntaxError.toError whole ⟨fault, there⟩))

/-- A parser does what a fresh one does on a part of its source, which begins at `base`. -/
structure Resumes (base : Position) (parser fresh : Parser) : Prop where
  result : Restated base fresh.source parser.source fresh.readLine.1.result
    parser.readLine.1.result
  fallbacks : parser.readLine.1.fallbacks = fresh.readLine.1.fallbacks
  /-- Both stop at the same token. -/
  kind : parser.readLine.2.current.kind = fresh.readLine.2.current.kind
  place : Corresponds base fresh.source fresh.readLine.2.current.span.start
    parser.readLine.2.current.span.start

theorem corresponds_shifted {part : String} {front behind : List Char} {place : Position}
    (split : part.toList = front ++ behind) (stands : place = Position.start.after front)
    (base : Position) : Corresponds base part place (place.shifted base) := by
  refine ⟨front, behind, split, stands, ?_⟩
  rw [Position.after_eq_shifted, stands]

/-- A parser right at its current token does what a fresh one does on what is ahead. -/
theorem resumes_of_cursor {policy : AnnotationPolicy} {source : String} {cursor : Cursor} :
    Resumes cursor.position ⟨source, policy, cursor⟩
      (ofText policy (String.ofList cursor.rest)) := by
  let part := String.ofList cursor.rest
  rcases parseRest_eq_shifted policy cursor with ⟨result, rest, fallbacks⟩
  have start : Cursor.ofText part = ⟨cursor.rest, Position.start⟩ := by
    rw [Cursor.ofText, String.toList_ofList]
  rcases rest.nextToken with ⟨kinds, ⟨characters, here, there⟩, -⟩
  rw [← start] at result kinds here fallbacks
  refine ⟨?_, fallbacks, (kinds_moved kinds).symm, ?_⟩
  · simp only [readLine, ofText, result]
    cases outcome : (parseRest policy (Cursor.ofText part)).result with
    | ok expression => exact .ok
    | error error =>
      have stuck := (parseRest_traces policy (Cursor.ofText part)).stuck error outcome
      rcases stuck.exists_place (.refl _) with ⟨before, behind, split, stands, -⟩
      exact .error error.fault (corresponds_shifted split stands _)
  · rcases exists_ahead policy part 1 with ⟨before, split, stands⟩
    have shifted := corresponds_shifted split stands cursor.position
    rw [Position.after_eq_shifted, ← here] at there
    exact there ▸ shifted

theorem Resumes.congr {base : Position} {fresh : Parser} (resumes : Resumes base other fresh)
    (same : parser.SamePlace other) : Resumes base parser fresh := by
  rcases same.readLine with ⟨line, next⟩
  have token := next.current
  rcases resumes with ⟨result, fallbacks, kind, place⟩
  rw [← line, ← same.source] at result
  rw [← line] at fallbacks
  rw [← token] at kind place
  exact ⟨result, fallbacks, kind, place⟩

/-- Once a line has been read, nothing but blanks is ahead. -/
theorem ended_of_ok {expression : Expr} (read : parser.readLine.1.result = .ok expression) :
    parser.readLine.2.ahead.rest = [] := by
  have traces := parseRest_traces parser.policy parser.cursor
  cases outcome : (parseRest parser.policy parser.cursor).result with
  | error error => simp [readLine, outcome, Except.mapError] at read
  | ok value =>
    rcases traces.settled value outcome with ⟨before, stage, -, -, blank⟩
    exact List.dropWhile_eq_nil_iff.mpr blank

/-- At the end of its source, a parser finds no expression and goes nowhere. -/
theorem readLine_of_ended {policy : AnnotationPolicy} {source : String} {calls : Nat}
    (ended : ((ofText policy source).afterLines calls).ahead.rest = []) :
    let parser := (ofText policy source).afterLines calls
    let last := Position.start.after source.toList
    parser.readLine.1.result =
        .error (.ofKind (.parse "expected verb or string literal, found end of input"
          last.line last.column (SyntaxError.sourceLine source last))) ∧
      parser.readLine.2.SamePlace parser := by
  intro parser last
  rcases (ofText policy source).afterLines_passes calls with ⟨sameSource, -, -⟩
  rcases exists_ahead policy source calls with ⟨before, whole, place⟩
  rw [ended, List.append_nil] at whole
  rw [← whole] at place
  rcases parseRest_atToken parser.policy parser.cursor with ⟨result, -, rest⟩
  rw [← ahead, parseRest_of_ended _ ended, place] at result rest
  refine ⟨?_, rfl, rfl, rest.trans (Cursor.atToken_atToken _)⟩
  simp only [readLine, result, parser, sameSource]
  rfl

/-- Whatever has been read, a parser does what a fresh one does from the current token on. -/
theorem exists_resumes (policy : AnnotationPolicy) (source : String) (calls : Nat) :
    let parser := (ofText policy source).afterLines calls
    ∃ before behind, source.toList = before ++ behind ∧
      parser.current.span.start = Position.start.after before ∧
      Resumes (Position.start.after before) parser (ofText policy (String.ofList behind)) := by
  intro parser
  rcases exists_ahead policy source calls with ⟨before, whole, place⟩
  rcases (ofText policy source).afterLines_passes calls with ⟨sameSource, samePolicy, -⟩
  have same : parser.SamePlace ⟨source, policy, parser.ahead⟩ :=
    ⟨sameSource, samePolicy, (Cursor.atToken_atToken _).symm⟩
  refine ⟨before, _, whole, place, ?_⟩
  rw [← place]
  exact resumes_of_cursor.congr same

/-- Once a line has been read, a parser finds the end of its source and nothing else. -/
theorem result_after_ok {policy : AnnotationPolicy} {source : String} {calls later : Nat}
    {expression : Expr}
    (read : ((ofText policy source).afterLines calls).readLine.1.result = .ok expression)
    (order : calls < later) :
    let last := Position.start.after source.toList
    ((ofText policy source).afterLines later).readLine.1.result =
      .error (.ofKind (.parse "expected verb or string literal, found end of input"
        last.line last.column (SyntaxError.sourceLine source last))) := by
  intro last
  have ended : ((ofText policy source).afterLines (calls + 1)).ahead.rest = [] := ended_of_ok read
  rcases readLine_of_ended ended with ⟨failed, stays⟩
  rw [(samePlace_of_le stays order).readLine.1]
  exact failed

/--
A parser that is asked for a line again does what a fresh parser does on its source from the current
token on.  It reads a line at most once, and from then on finds the end of the source; a call that
fails where it began is repeated by all later ones; and after as many calls as the source has
characters, nothing new happens.
-/
theorem readLine_resumes_and_settles (policy : AnnotationPolicy) (source : String) :
    let parser calls := (ofText policy source).afterLines calls
    let result calls := (parser calls).readLine.1.result
    let last := Position.start.after source.toList
    (∀ calls, ∃ before behind, source.toList = before ++ behind ∧
      (parser calls).current.span.start = Position.start.after before ∧
      Resumes (Position.start.after before) (parser calls)
        (ofText policy (String.ofList behind))) ∧
    (∀ first second expression another,
      result first = .ok expression → result second = .ok another → first = second) ∧
    (∀ calls expression, result calls = .ok expression → ∀ later > calls,
      result later = .error (.ofKind (.parse
        "expected verb or string literal, found end of input" last.line last.column
        (SyntaxError.sourceLine source last)))) ∧
    (∀ calls error, result calls = .error error →
      (parser (calls + 1)).current = (parser calls).current →
      ∀ later ≥ calls, (parser later).readLine.1 = (parser calls).readLine.1) ∧
    ∀ later ≥ source.toList.length,
      (parser later).readLine.1 = (parser source.toList.length).readLine.1 := by
  intro parser result last
  refine ⟨exists_resumes policy source, fun first second expression another read readToo => ?_,
    fun calls expression read later order => result_after_ok read order,
    fun calls error failed unmoved later order => ?_, fun later order => ?_⟩
  · rcases Nat.lt_trichotomy first second with before | same | behind
    · cases readToo.symm.trans (result_after_ok read before)
    · exact same
    · cases read.symm.trans (result_after_ok readToo behind)
  · exact (samePlace_of_le (samePlace_of_current unmoved) order).readLine.1
  · have few : (ofText policy source).ahead.rest.length ≤ source.toList.length :=
      Cursor.length_dropWhile_le _ isBlank
    exact (samePlace_of_le (settles few) order).readLine.1

/-- Behind an annotation that is not closed, the string that stops it is a line of its own. -/
theorem readLine_resumes_and_settles_behind_open_case :
    let source := "\"a\" [x\n\"b\""
    let parser calls := (ofText .strict source).afterLines calls
    let result calls := (parser calls).readLine.1.result
    let ended := Except.error (.ofKind (.parse
      "expected verb or string literal, found end of input" 2 4 "\"b\""))
    result 1 = .ok (.literal "b" .nominative) ∧ (∀ later > 1, result later = ended) ∧
      result 2 = ended ∧ (parser 3).current = (parser 2).current ∧
      (∀ later ≥ 2, (parser later).readLine.1 = (parser 2).readLine.1) ∧
      ∀ later ≥ 10, (parser later).readLine.1 = (parser 10).readLine.1 := by
  intro source parser result ended
  rcases readLine_resumes_and_settles .strict source with ⟨-, -, afterwards, repeats, settles⟩
  have read : result 1 = .ok (.literal "b" .nominative) := by decide +kernel
  have failed : result 2 = ended := by decide +kernel
  have unmoved : (parser 3).current = (parser 2).current := by decide +kernel
  have last : Position.start.after source.toList = ⟨10, 2, 4⟩ := by decide +kernel
  have excerpt : SyntaxError.sourceLine source ⟨10, 2, 4⟩ = "\"b\"" := by decide +kernel
  have length : source.toList.length = 10 := by decide
  simp only [last, excerpt] at afterwards
  rw [length] at settles
  exact ⟨read, afterwards 1 _ read, failed, unmoved, repeats 2 _ failed unmoved, settles⟩

end Parser

end Parsing

end Concord
