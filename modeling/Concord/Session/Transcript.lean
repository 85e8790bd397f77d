import Concord.Session.Action
import Concord.Session.Basic
import Concord.Session.Reading

/-!
# Transcripts

A whole session, from its banner to its end, as the list of what it does.  Each reading is answered
by a turn; the next line is asked for only when the turn has been performed.
-/

namespace Concord

/-- What a session does in answer to a reading. -/
structure Turn where
  actions : List Action
  session : Session
  /-- How the session ends, if it ends here. -/
  ending : Option (Except Error Unit)

/-- What a session has done, how it ended, and what it was like then. -/
structure Transcript where
  actions : List Action
  result : Except Error Unit
  session : Session

/-- The actions that show an outcome. -/
def Outcome.report (outcome : Outcome) (styled : Bool) : List Action :=
  match outcome.block? styled with
  | none => []
  | some block => [.writeText block, .flush]

namespace Session

def banner : String :=
  "Kip Semantic Interpreter v0.3.0\nType 'exit' to quit.\n"

/-- What a session does before it asks for the first line. -/
def opening (session : Session) : List Action :=
  .log (.sessionStarted session.scope session.policy) ::
    if session.showsBanner then [.writeText banner, .flush] else []

def lineTurn (session : Session) (text : String) : Turn :=
  let answer := session.answer text
  let noted := answer.events.map Action.log
  match answer.outcome with
  | .skipped => ⟨noted, answer.session, none⟩
  | .exit => ⟨noted ++ [.log .sessionEnded], answer.session, some (.ok ())⟩
  | outcome => ⟨noted ++ .remember text :: outcome.report session.styled, answer.session, none⟩

/-- What a session does in answer to a reading. -/
def turn (session : Session) : Reading → Turn
  | .line text repaired =>
    let turn := session.lineTurn text
    ⟨if repaired then .log .lineRepaired :: turn.actions else turn.actions, turn.session,
      turn.ending⟩
  | .interrupted => ⟨[], session, none⟩
  | .endOfInput => ⟨[.log .sessionEnded], session, some (.ok ())⟩
  | .failed error => ⟨[], session, some (.error error)⟩

/-- Ask for a line, answer the reading, and go on with `next` if the session does. -/
def respond
    (session : Session)
    (sink : Sink)
    (reading : Reading)
    (next : Session → Sink → Transcript) :
    Transcript :=
  let turn := session.turn reading
  let performed := sink.performAll (.read session.prompt :: turn.actions)
  match performed.result, turn.ending with
  | .error error, _ => ⟨performed.actions, .error error, turn.session⟩
  | .ok _, some result => ⟨performed.actions, result, turn.session⟩
  | .ok sink, none =>
    let others := next turn.session sink
    ⟨performed.actions ++ others.actions, others.result, others.session⟩

/-- Answer the readings in order.  Behind the last one is the end of the input. -/
def converse (session : Session) (sink : Sink) : List Reading → Transcript
  | [] => session.respond sink .endOfInput fun session _ => ⟨[], .ok (), session⟩
  | reading :: others =>
    session.respond sink reading fun session sink => session.converse sink others

/-- Hold the session from its beginning to its end. -/
def run (session : Session) (sink : Sink) (readings : List Reading) : Transcript :=
  let performed := sink.performAll session.opening
  match performed.result with
  | .error error => ⟨performed.actions, .error error, session⟩
  | .ok sink =>
    let others := session.converse sink readings
    ⟨performed.actions ++ others.actions, others.result, others.session⟩

end Session

namespace Transcript

def output (transcript : Transcript) : List UInt8 :=
  transcript.actions.flatMap Action.written

/-- The prompts with which lines were asked for. -/
def prompts (transcript : Transcript) : List String :=
  transcript.actions.filterMap Action.prompt?

def history (transcript : Transcript) : List String :=
  transcript.actions.filterMap Action.remembered?

def events (transcript : Transcript) : List LogEvent :=
  transcript.actions.filterMap Action.event?

/-- How often flushing was attempted. -/
def flushes (transcript : Transcript) : Nat :=
  transcript.actions.count .flush

end Transcript

end Concord
