import Concord.Log
import Concord.Text.Utf8

/-!
# Actions and sinks

What a session does to the world is a list of actions.  The actions on the output can fail, because
a sink may have room for so many bytes only or may refuse to be flushed.  Actions are performed in
order up to the first that fails, and a write that does not fit is performed as far as it does.
-/

namespace Concord

/-- Something that a session does. -/
inductive Action where
  | read (prompt : String)
  | remember (line : String)
  | write (bytes : List UInt8)
  | flush
  | log (event : LogEvent)
  deriving DecidableEq

namespace Action

def writeText (text : String) : Action :=
  write (Text.Utf8.encode text)

def written : Action → List UInt8
  | write bytes => bytes
  | _ => []

/-- The prompt with which the action asks for a line. -/
def prompt? : Action → Option String
  | read prompt => some prompt
  | _ => none

def remembered? : Action → Option String
  | remember line => some line
  | _ => none

def event? : Action → Option LogEvent
  | log event => some event
  | _ => none

end Action

structure Sink where
  /-- How many more bytes are taken, if there is a limit. -/
  room : Option Nat
  refusesFlush : Bool
  deriving DecidableEq, Repr

/-- What has been performed, and the sink afterwards or the error that stopped it. -/
structure Performance where
  /-- The actions, as far as they have been performed. -/
  actions : List Action
  result : Except Error Sink

namespace Sink

def unlimited : Sink :=
  ⟨none, false⟩

def perform (sink : Sink) : Action → Performance
  | .write bytes =>
    match sink.room with
    | none => ⟨[.write bytes], .ok sink⟩
    | some room =>
      if bytes.length ≤ room then
        ⟨[.write bytes], .ok { sink with room := some (room - bytes.length) }⟩
      else
        ⟨[.write (bytes.take room)], .error (.ofKind (.io "write refused"))⟩
  | .flush =>
    if sink.refusesFlush then
      ⟨[.flush], .error (.ofKind (.io "flush refused"))⟩
    else
      ⟨[.flush], .ok sink⟩
  | action => ⟨[action], .ok sink⟩

/-- Perform actions in order, up to the first that fails. -/
def performAll (sink : Sink) : List Action → Performance
  | [] => ⟨[], .ok sink⟩
  | action :: others =>
    let first := sink.perform action
    match first.result with
    | .error error => ⟨first.actions, .error error⟩
    | .ok sink =>
      let rest := sink.performAll others
      ⟨first.actions ++ rest.actions, rest.result⟩

end Sink

end Concord
