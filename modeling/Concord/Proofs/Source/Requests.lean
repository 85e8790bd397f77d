import Concord.Proofs.Source.Places
import Concord.Proofs.Source.Tokenization

/-!
# Mixed readings

A reader asks a cursor for tokens and for the texts of annotations, in any order and with any
closing character.  The cursor always stands where its last reply stopped, so a reply is placed by
the characters in front of it.  The main statement places all replies of a reading, and says that
the end of the input stays the only token once it is reached.
-/

namespace Concord.Source

open Text (Blanks byteLength isBlank)

/-- What a reader asks a cursor for. -/
inductive Request where
  | token
  /-- The text of an annotation which this character closes. -/
  | rawText (close : Char)
  deriving DecidableEq, Repr

/-- What a cursor answers. -/
inductive Reply where
  | token (token : Token)
  | rawText (text : String) (span : Span)
  deriving DecidableEq, Repr

def Reply.span : Reply → Span
  | .token read => read.span
  | .rawText _ span => span

namespace Cursor

/-- The reply to a request, and the cursor behind it. -/
def answer (cursor : Cursor) : Request → Reply × Cursor
  | .token => (.token cursor.peek, cursor.nextToken.2)
  | .rawText close =>
    let name := cursor.annotationText close
    (.rawText name.text name.span, name.next)

/-- The replies to requests that are made one after the other. -/
def replies (cursor : Cursor) : List Request → List Reply
  | [] => []
  | request :: requests => (cursor.answer request).1 :: (cursor.answer request).2.replies requests

end Cursor

/-! ## Places of replies -/

/-- A span covers these characters of a source, between the others, and its position is theirs. -/
structure Span.Lies (span : Span) (source : String) (front covered behind : List Char) : Prop where
  whole : source.toList = front ++ (covered ++ behind)
  covers : span.Covers 0 front covered
  ordered : span.start.offset ≤ span.stop ∧ span.stop ≤ byteLength source.toList
  names : Names span.start.line span.start.column front
  /-- Neither number is greater than the number of characters and one. -/
  small : span.start.line ≤ source.toList.length + 1 ∧
    span.start.column ≤ source.toList.length + 1

/-- The reply to a request is placed in a source in which the previous reply stopped here. -/
inductive Placed (source : String) (stop : Nat) : Request → Reply → Prop
  | token {token : Token} {passed blanks covered behind : List Char}
    (previous : byteLength passed = stop)
    (blank : Blanks blanks)
    (lies : token.span.Lies source (passed ++ blanks) covered behind)
    (visible : ∀ c ∈ (covered ++ behind).head?, isBlank c = false)
    (ended : token.kind = .endOfInput ↔ token.span.start.offset = byteLength source.toList) :
    Placed source stop .token (.token token)
  | rawText {close : Char} {text : String} {span : Span} {front covered behind : List Char}
    (previous : span.start.offset = stop)
    (lies : span.Lies source front covered behind)
    (spans : span.text? source = some text)
    (inside : ∀ c ∈ text.toList, Inside close c)
    (stops : ∀ c ∈ behind.head?, ¬ Inside close c) :
    Placed source stop (.rawText close) (.rawText text span)

/-- The replies to the requests are placed one behind the other, the first one behind `stop`. -/
inductive PlacedFrom (source : String) : (stop : Nat) → List Request → List Reply → Prop
  | none : PlacedFrom source stop [] []
  | next
    (placed : Placed source stop request reply)
    (others : PlacedFrom source reply.span.stop requests replies) :
    PlacedFrom source stop (request :: requests) (reply :: replies)

/-- Only at the end of a text nothing is ahead. -/
theorem Lexeme.endOfInput_iff {kind : TokenKind} {covered rest : List Char}
    (lexeme : Lexeme kind covered rest) : kind = .endOfInput ↔ covered ++ rest = [] := by
  constructor
  · rintro rfl
    rw [lexeme.spelled.1.eq_nil, lexeme.spelled.2 (.inr rfl), List.append_nil]
  · intro nothing
    by_contra more
    exact lexeme.spelled.1.ne_nil more (List.append_eq_nil_iff.mp nothing).1

namespace Cursor

variable {source : String} {cursor start stop : Cursor} {passed front covered : List Char}

/-- What is passed over on the way through a source lies there. -/
theorem lies_of_passes (reached : (ofText source).Passes front start)
    (passes : start.Passes covered stop) :
    (start.spanTo stop).Lies source front covered stop.rest := by
  have whole : source.toList = front ++ (covered ++ stop.rest) := by
    rw [← passes.rest]
    exact reached.rest
  have place : start.position = Position.start.after front := reached.position
  have starts : start.position.offset = byteLength front := by
    rw [place, Position.offset_after]
    exact Nat.zero_add _
  have stops : stop.position.offset = byteLength front + byteLength covered := by
    rw [passes.position, Position.offset_after, starts]
  have names : Names start.position.line start.position.column front :=
    place ▸ Position.names_after_start front
  refine ⟨whole, ⟨?_, ?_⟩, ⟨?_, ?_⟩, names, ?_⟩
  · rw [Nat.zero_add]
    exact starts
  · rw [Nat.zero_add, Text.byteLength_append]
    exact stops
  · simp only [spanTo, starts, stops]
    omega
  · rw [whole, Text.byteLength_append, Text.byteLength_append]
    simp only [spanTo, stops]
    omega
  · have few := names.le_length
    rw [whole, List.length_append]
    simp only [spanTo]
    omega

/-! ## One request -/

theorem answer_passes (cursor : Cursor) (request : Request) :
    ∃ passed, cursor.Passes passed (cursor.answer request).2 := by
  cases request with
  | token =>
    rcases cursor.nextToken_spec with ⟨blanks, covered, -, -, passes, -, -⟩
    exact ⟨_, passes⟩
  | rawText close =>
    rcases cursor.annotationText_spec close with ⟨text, -, ahead, -, -⟩
    exact ⟨text, passes_annotationText ahead⟩

/-- A cursor stands where its reply stopped. -/
theorem stop_answer (cursor : Cursor) (request : Request) :
    (cursor.answer request).1.span.stop = (cursor.answer request).2.position.offset := by
  cases request <;> rfl

theorem token_placed (reached : (ofText source).Passes passed cursor) :
    Placed source cursor.position.offset .token (.token cursor.peek) := by
  rcases cursor.passes_token with ⟨blanks, covered, blank, lexeme, skipped, passes⟩
  have lies : cursor.peek.span.Lies source (passed ++ blanks) covered cursor.nextToken.2.rest :=
    lies_of_passes (reached.trans skipped) passes
  have previous : byteLength passed = cursor.position.offset := by
    rw [reached.position, Position.offset_after]
    exact (Nat.zero_add _).symm
  refine .token previous blank lies (notBlank_of_lexeme lexeme) ?_
  rw [lexeme.endOfInput_iff, lies.covers.start, lies.whole,
    Text.byteLength_append (passed ++ blanks), Nat.zero_add]
  constructor
  · intro nothing
    rw [nothing, Text.byteLength_nil, Nat.add_zero]
  · intro atEnd
    by_contra more
    have longer := Text.byteLength_pos more
    omega

theorem rawText_placed (reached : (ofText source).Passes passed cursor) (close : Char) :
    Placed source cursor.position.offset (.rawText close)
      (cursor.answer (.rawText close)).1 := by
  rcases cursor.annotationText_spec close with ⟨text, read, ahead, inside, stops⟩
  have lies := lies_of_passes reached (passes_annotationText ahead)
  have spans := Span.text?_of_covers lies.whole lies.covers
  refine .rawText rfl lies ?_ ?_ stops
  · rw [read]
    exact spans
  · rw [read, String.toList_ofList]
    exact inside

theorem answer_placed (reached : (ofText source).Passes passed cursor) (request : Request) :
    Placed source cursor.position.offset request (cursor.answer request).1 := by
  cases request with
  | token => exact token_placed reached
  | rawText close => exact rawText_placed reached close

/-! ## A whole reading -/

theorem replies_placedFrom (reached : (ofText source).Passes passed cursor)
    (requests : List Request) :
    PlacedFrom source cursor.position.offset requests (cursor.replies requests) := by
  induction requests generalizing cursor passed with
  | nil => exact .none
  | cons request requests inductionHypothesis =>
    rcases cursor.answer_passes request with ⟨more, passes⟩
    refine .next (answer_placed reached request) ?_
    rw [stop_answer]
    exact inductionHypothesis (reached.trans passes)

/-! ## The end of the input -/

theorem takeWhile_of_ended (ended : cursor.rest = []) (test : Char → Bool) :
    cursor.takeWhile test = ([], cursor) := by
  rcases cursor with ⟨rest, position⟩
  cases ended
  rfl

/-- At the end of the input the next token is the end, and a cursor stays there. -/
theorem nextToken_of_ended (ended : cursor.rest = []) :
    cursor.nextToken = (⟨.endOfInput, cursor.spanTo cursor⟩, cursor) := by
  simp only [nextToken, dropWhile, takeWhile_of_ended ended, scan, ended]

theorem answer_of_ended (ended : cursor.rest = []) (request : Request) :
    (cursor.answer request).2 = cursor := by
  cases request with
  | token => rw [answer, nextToken_of_ended ended]
  | rawText close => simp only [answer, annotationText, takeWhile_of_ended ended]

/-- Behind the end of the input there is the same end of the input. -/
theorem nextToken_of_kind (kind : cursor.peek.kind = .endOfInput) :
    cursor.nextToken.2.rest = [] ∧ cursor.nextToken.2.peek = cursor.peek := by
  rcases cursor.passes_token with ⟨blanks, covered, -, lexeme, -, passes⟩
  rcases List.append_eq_nil_iff.mp (lexeme.endOfInput_iff.mp kind) with ⟨rfl, ended⟩
  have place : cursor.nextToken.2.position = (cursor.dropWhile isBlank).position := passes.position
  refine ⟨ended, ?_⟩
  calc cursor.nextToken.2.peek
      = ⟨.endOfInput, cursor.nextToken.2.spanTo cursor.nextToken.2⟩ := by
        rw [peek, nextToken_of_ended ended]
    _ = ⟨cursor.peek.kind, (cursor.dropWhile isBlank).spanTo cursor.nextToken.2⟩ := by
        rw [kind, spanTo, spanTo, place]

theorem eq_peek_of_mem_replies (ended : cursor.rest = []) {requests : List Request}
    {token : Token} (member : .token token ∈ cursor.replies requests) : token = cursor.peek := by
  induction requests with
  | nil => cases member
  | cons request requests inductionHypothesis =>
    rw [replies, answer_of_ended ended] at member
    rcases List.mem_cons.mp member with first | later
    · cases request with
      | token => exact Reply.token.inj first
      | rawText close => cases first
    · exact inductionHypothesis later

/-- The end of the input stays the only token. -/
theorem replies_pairwise (cursor : Cursor) (requests : List Request) :
    (cursor.replies requests).Pairwise fun earlier later =>
      ∀ last token, earlier = .token last → last.kind = .endOfInput → later = .token token →
        token = last := by
  induction requests generalizing cursor with
  | nil => exact .nil
  | cons request requests inductionHypothesis =>
    refine .cons ?_ (inductionHypothesis _)
    rintro later member last token first ended rfl
    cases request with
    | token =>
      obtain rfl := Reply.token.inj first
      rcases nextToken_of_kind ended with ⟨nothing, same⟩
      rw [← same]
      exact eq_peek_of_mem_replies nothing member
    | rawText close => cases first

/--
Whatever is asked of the cursor at the start of a source, every reply is placed in the source, right
behind the previous one, and there is no token behind the end of the input but this end.
-/
theorem replies_placed (source : String) (requests : List Request) :
    PlacedFrom source 0 requests ((ofText source).replies requests) ∧
      ((ofText source).replies requests).Pairwise fun earlier later =>
        ∀ last token, earlier = .token last → last.kind = .endOfInput → later = .token token →
          token = last :=
  ⟨replies_placedFrom (.refl _) requests, replies_pairwise _ requests⟩

-- An annotation begins in front of blanks, and one that is asked for again is empty.
example :
    ((ofText "ş [ \n").replies
      [.token, .token, .rawText ']', .rawText ']', .token]).map Reply.span =
    [⟨⟨0, 1, 1⟩, 2⟩, ⟨⟨3, 1, 3⟩, 4⟩, ⟨⟨4, 1, 4⟩, 5⟩, ⟨⟨5, 1, 5⟩, 5⟩, ⟨⟨6, 2, 1⟩, 6⟩] := by
  decide +kernel

end Cursor

end Concord.Source
