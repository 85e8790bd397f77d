import Concord.Proofs.Text.Bytes
import Concord.Session.Transcript

/-!
# Turns and conversations

What a session hears and what it says, reading by reading.  A reading may end the session, and it may
ask for an answer; it never does both.  When the output takes everything, a conversation is nothing
but its turns, one after the other up to the first that ends it.
-/

namespace Concord

open Parsing (parseLine readLine)
open Text (trim)

namespace Reading

/-- How a session ends at the reading, if it does. -/
def ending? : Reading → Option (Except Error Unit)
  | line text _ => if trim text = "exit" then some (.ok ()) else none
  | interrupted => none
  | endOfInput => some (.ok ())
  | failed error => some (.error error)

/-- The line of the reading, if it asks for an answer. -/
def question? : Reading → Option String
  | line text _ => if trim text = "" ∨ trim text = "exit" then none else some text
  | _ => none

/-- The lines that a session answers: those before the first reading that ends it. -/
def questions (readings : List Reading) : List String :=
  (readings.takeWhile (·.ending?.isNone)).filterMap question?

/-- How a session ends that hears these readings and then nothing more. -/
def ending (readings : List Reading) : Except Error Unit :=
  (readings.findSome? ending?).getD (.ok ())

variable {reading : Reading} {others : List Reading}

/-- Only a line asks for an answer, and it does not end the session. -/
theorem eq_line_of_question {text : String} (asks : reading.question? = some text) :
    (∃ repaired, reading = .line text repaired) ∧ reading.ending? = none := by
  cases reading with
  | line kept repaired =>
    simp only [question?, Option.ite_none_left_eq_some, not_or, Option.some.injEq] at asks
    rcases asks with ⟨⟨-, exit⟩, rfl⟩
    exact ⟨⟨repaired, rfl⟩, if_neg exit⟩
  | _ => cases asks

theorem question?_of_ending {result : Except Error Unit} (ends : reading.ending? = some result) :
    reading.question? = none := by
  cases question : reading.question? with
  | none => rfl
  | some text =>
    rw [(eq_line_of_question question).2] at ends
    cases ends

theorem questions_cons_of_ending {result : Except Error Unit}
    (ends : reading.ending? = some result) :
    questions (reading :: others) = [] := by
  simp [questions, ends]

theorem questions_cons_of_going_on (going : reading.ending? = none) :
    questions (reading :: others) = reading.question?.toList ++ questions others := by
  cases question : reading.question? <;> simp [questions, going, question]

theorem ending_cons_of_ending {result : Except Error Unit} (ends : reading.ending? = some result) :
    ending (reading :: others) = result := by
  simp [ending, ends]

theorem ending_cons_of_going_on (going : reading.ending? = none) :
    ending (reading :: others) = ending others := by
  simp [ending, going]

end Reading

/-! ## Actions -/

namespace Sink

@[simp]
theorem perform_unlimited (action : Action) :
    unlimited.perform action = ⟨[action], .ok unlimited⟩ := by
  cases action <;> rfl

/-- A sink that takes everything has all actions performed. -/
@[simp]
theorem performAll_unlimited (actions : List Action) :
    unlimited.performAll actions = ⟨actions, .ok unlimited⟩ := by
  induction actions with
  | nil => rfl
  | cons action others inductionHypothesis => simp [performAll, inductionHypothesis]

end Sink

/-- Noting events writes nothing. -/
@[simp]
theorem Action.written_log (events : List LogEvent) :
    (events.map Action.log).flatMap Action.written = [] := by
  simp [List.flatMap_eq_nil_iff, Action.written]

namespace Outcome

theorem written_report (outcome : Outcome) (styled : Bool) :
    (outcome.report styled).flatMap Action.written =
      Text.Utf8.encode ((outcome.block? styled).getD "") := by
  cases block : outcome.block? styled <;>
    simp [report, block, Action.writeText, Action.written, Text.Utf8.encode]

end Outcome

namespace Session

variable {session : Session} {reading : Reading}

/-! ## Answers -/

section Answers

variable {line : String}

theorem answer_of_blank (blank : trim line = "") :
    session.answer line = ⟨.skipped, session, []⟩ := by
  simp [answer, blank]

theorem answer_of_exit (exit : trim line = "exit") :
    session.answer line = ⟨.exit, session, []⟩ := by
  simp [answer, exit]

theorem answer_of_error (spoken : trim line ≠ "") (stays : trim line ≠ "exit") {error : Error}
    (read : parseLine session.policy line = .error error) :
    (session.answer line).outcome = .parseError error ∧ (session.answer line).session = session := by
  have read : (readLine session.policy line).result = .error error := read
  simp [answer, spoken, stays, read]

theorem answer_of_ok (spoken : trim line ≠ "") (stays : trim line ≠ "exit") {expression : Expr}
    (read : parseLine session.policy line = .ok expression) :
    (session.answer line).outcome = (session.evaluate expression).outcome ∧
      (session.answer line).session = (session.evaluate expression).session := by
  have read : (readLine session.policy line).result = .ok expression := read
  simp [answer, spoken, stays, read]

/-- A line that is neither blank nor the end of the session gets a block. -/
theorem block?_answer_isSome (session : Session) (spoken : trim line ≠ "")
    (stays : trim line ≠ "exit") (styled : Bool) :
    ((session.answer line).outcome.block? styled).isSome = true := by
  cases read : parseLine session.policy line with
  | error error => simp [(answer_of_error spoken stays read).1, Outcome.block?]
  | ok expression => simp [(answer_of_ok spoken stays read).1, evaluate, Outcome.block?]

/-- Outcomes that get a block are shown, and the line is kept. -/
theorem lineTurn_of_block {styled : Bool}
    (shown : ((session.answer line).outcome.block? styled).isSome = true) :
    session.lineTurn line =
      ⟨(session.answer line).events.map Action.log ++
          .remember line :: (session.answer line).outcome.report session.styled,
        (session.answer line).session, none⟩ := by
  cases outcome : (session.answer line).outcome with
  | skipped => simp [outcome, Outcome.block?] at shown
  | exit => simp [outcome, Outcome.block?] at shown
  | _ => simp [lineTurn, outcome]

end Answers

/-! ## Conversations -/

/-- A reading that asks for no answer has events noted, and changes nothing. -/
theorem turn_of_quiet (session : Session) (quiet : reading.question? = none) :
    (∃ events : List LogEvent, (session.turn reading).actions = events.map Action.log) ∧
      (session.turn reading).session = session := by
  cases reading with
  | line text repaired =>
    let repairs : List LogEvent := if repaired then [.lineRepaired] else []
    by_cases blank : trim text = ""
    · refine ⟨⟨repairs, ?_⟩, ?_⟩ <;>
        cases repaired <;> simp [repairs, turn, lineTurn, answer_of_blank blank]
    · have exit : trim text = "exit" := by
        simpa [Reading.question?, blank] using quiet
      refine ⟨⟨repairs ++ [.sessionEnded], ?_⟩, ?_⟩ <;>
        cases repaired <;> simp [repairs, turn, lineTurn, answer_of_exit exit]
  | interrupted => exact ⟨⟨[], rfl⟩, rfl⟩
  | endOfInput => exact ⟨⟨[.sessionEnded], rfl⟩, rfl⟩
  | failed error => exact ⟨⟨[], rfl⟩, rfl⟩

/-- A line that asks for an answer is kept, and its block is written at once. -/
theorem turn_of_question (session : Session) {text : String}
    (asks : reading.question? = some text) :
    ∃ events : List LogEvent, ∃ block,
      (session.answer text).outcome.block? session.styled = some block ∧
        (session.turn reading).actions =
          events.map Action.log ++ [.remember text, .writeText block, .flush] := by
  cases reading with
  | line kept repaired =>
    simp only [Reading.question?, Option.ite_none_left_eq_some, not_or, Option.some.injEq] at asks
    rcases asks with ⟨⟨blank, exit⟩, rfl⟩
    let repairs : List LogEvent := if repaired then [.lineRepaired] else []
    have shown := session.block?_answer_isSome blank exit session.styled
    rcases Option.isSome_iff_exists.mp shown with ⟨block, found⟩
    refine ⟨repairs ++ (session.answer kept).events, block, found, ?_⟩
    cases repaired <;> simp [repairs, turn, lineTurn_of_block shown, Outcome.report, found]
  | _ => cases asks

/-- A turn notes events, and that is all, or it then keeps its line and writes a block at once. -/
theorem actions_turn (session : Session) (reading : Reading) :
    (∃ events : List LogEvent, (session.turn reading).actions = events.map Action.log) ∨
      ∃ text repaired, ∃ events : List LogEvent, ∃ block,
        reading = .line text repaired ∧ reading.ending? = none ∧
          (session.turn reading).actions =
            events.map Action.log ++ [.remember text, .writeText block, .flush] := by
  cases question : reading.question? with
  | none => exact .inl (session.turn_of_quiet question).1
  | some text =>
    rcases session.turn_of_question question with ⟨events, block, -, actions⟩
    rcases Reading.eq_line_of_question question with ⟨⟨repaired, rfl⟩, going⟩
    exact .inr ⟨text, repaired, events, block, rfl, going, actions⟩

/-- A turn that ends the session does so in the way its reading says. -/
theorem ending_turn (session : Session) (reading : Reading) :
    (session.turn reading).ending = reading.ending? := by
  cases reading with
  | line text repaired =>
    by_cases blank : trim text = ""
    · simp [turn, lineTurn, answer_of_blank blank, Reading.ending?, blank]
    · by_cases exit : trim text = "exit"
      · simp [turn, lineTurn, answer_of_exit exit, Reading.ending?, exit]
      · have shown := session.block?_answer_isSome blank exit session.styled
        simp [turn, lineTurn_of_block shown, Reading.ending?, exit]
  | _ => rfl

section Responses

variable {sink left : Sink} {next : Session → Sink → Transcript}
  (performed : sink.performAll (.read session.prompt :: (session.turn reading).actions) =
    ⟨.read session.prompt :: (session.turn reading).actions, .ok left⟩)

include performed

/-- A conversation stops at a reading that ends the session. -/
theorem respond_of_ending {result : Except Error Unit} (ends : reading.ending? = some result) :
    session.respond sink reading next =
      ⟨.read session.prompt :: (session.turn reading).actions, result,
        (session.turn reading).session⟩ := by
  simp [respond, performed, ending_turn, ends]

/-- A conversation goes on behind a reading that does not end the session. -/
theorem respond_of_going_on (going : reading.ending? = none) :
    session.respond sink reading next =
      let others := next (session.turn reading).session left
      ⟨.read session.prompt :: (session.turn reading).actions ++ others.actions, others.result,
        others.session⟩ := by
  simp [respond, performed, ending_turn, going]

end Responses

/-- Before the first line, nothing but the banner is written. -/
theorem written_opening (session : Session) :
    session.opening.flatMap Action.written =
      Text.Utf8.encode (if session.showsBanner then banner else "") := by
  cases shown : session.showsBanner <;>
    simp [opening, shown, Action.written, Action.writeText, Text.Utf8.encode]

end Session

end Concord
