import Concord.CommandLine.Program

/-!
# Running the program

The outer layer: it performs the actions of a session on the standard streams.  Lines are answered
as they come in.
-/

namespace Concord.CommandLine

/-- Read the bytes of a line, with the line feed at its end if there is one. -/
partial def readBytes (input : IO.FS.Stream) (before : List UInt8) : IO (List UInt8) := do
  match (← input.read 1).toList with
  | [] => return before.reverse
  | byte :: _ =>
    if byte = RawLine.lineFeed then
      return (byte :: before).reverse
    else
      readBytes input (byte :: before)

/-- Perform an action.  Prompts are shown only if asked for, and nothing is logged. -/
def performAction (output : IO.FS.Stream) (prompting : Bool) : Action → IO Unit
  | .read prompt => do
    if prompting then
      output.putStr (Terminal.decoratePrompt prompt true)
      output.flush
  | .write bytes => output.write ⟨bytes.toArray⟩
  | .flush => output.flush
  | .remember _ | .log _ => pure ()

/-- Hold a session from the next line on, and hand out how it ends. -/
partial def holdSession
    (input output : IO.FS.Stream)
    (prompting interactive : Bool)
    (session : Session) :
    IO (Except Error Unit) := do
  performAction output prompting (.read session.prompt)
  let bytes ← readBytes input []
  let reading :=
    match RawLine.next? bytes with
    | none => Reading.endOfInput
    | some (line, _) => readingOf interactive line
  let turn := session.turn reading
  turn.actions.forM (performAction output prompting)
  match turn.ending with
  | some result => return result
  | none => holdSession input output prompting interactive turn.session

/-- Run the program on the standard streams, and hand out its exit code. -/
def runOnStreams (arguments : List String) : IO UInt32 := do
  let input ← IO.getStdin
  let output ← IO.getStdout
  let errors ← IO.getStderr
  let terminal ← input.isTty
  match Plan.ofWords ("kip" :: arguments) terminal with
  | .refuse error =>
    errors.putStr (complaint error)
    return 1
  | .show text =>
    output.putStr (text ++ "\n")
    return 0
  | .converse session interactive =>
    let prompting := terminal && interactive
    session.opening.forM (performAction output prompting)
    match ← holdSession input output prompting interactive session with
    | .ok () => return 0
    | .error error =>
      errors.putStr (complaint error)
      return 1

end Concord.CommandLine

def main (arguments : List String) : IO UInt32 :=
  Concord.CommandLine.runOnStreams arguments
