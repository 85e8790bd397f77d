import Concord.CommandLine.Help
import Concord.CommandLine.Options
import Concord.Session.Transcript

/-!
# The program

What a command line leads to, and what a whole run leaves behind: its output, its complaints and its
exit code.
-/

namespace Concord.CommandLine

inductive Plan where
  | refuse (error : Error)
  | show (text : String)
  | converse (session : Session) (interactive : Bool)

/-- What a run leaves behind. -/
structure Report where
  code : Nat
  output : List UInt8
  /-- What was written to the error output. -/
  complaints : String

/-- The session that the options ask for. -/
def Options.session (options : Options) (interactive : Bool) : Session :=
  { Session.start with
    policy := options.policy
    scope := options.scope
    showsBanner := !options.hidesBanner
    styled := interactive }

/-- What a command line leads to.  Help goes before the version, and both before a session. -/
def Plan.ofWords (words : List String) (terminal : Bool) : Plan :=
  match Options.parse words with
  | .error error => .refuse error
  | .ok options =>
    if options.help then .show helpText
    else if options.version then .show versionText
    else .converse (options.session (options.isInteractive terminal))
      (options.isInteractive terminal)

def complaint (error : Error) : String :=
  "Error: " ++ error.message ++ "\n"

/--
The line as a line editor hands it over.  The editor is a library outside of the program, and this
follows how it reads an input that is no terminal: it takes a line as text, which fails at bytes
that belong to no character, and then drops the terminator, a line feed or the two characters of a
carriage return and a line feed.
-/
def editedReading (line : RawLine) : Reading :=
  let bytes := if line.terminated then RawLine.dropReturn line.bytes else line.bytes
  if Text.Utf8.isWellFormed bytes then
    .line (Text.Utf8.decode bytes) false
  else
    .failed (.ofKind (.internal "stream did not contain valid UTF-8"))

/-- The line as the program reads it. -/
def readingOf (interactive : Bool) (line : RawLine) : Reading :=
  if interactive then editedReading line else line.streamed

/-- What a session leaves behind. -/
def Report.ofTranscript (transcript : Transcript) : Report :=
  match transcript.result with
  | .ok () => ⟨0, transcript.output, ""⟩
  | .error error => ⟨1, transcript.output, complaint error⟩

/-- Run the program on an input that is no terminal. -/
def run (words : List String) (input : List UInt8) : Report :=
  match Plan.ofWords words false with
  | .refuse error => ⟨1, [], complaint error⟩
  | .show text => ⟨0, Text.Utf8.encode (text ++ "\n"), ""⟩
  | .converse session interactive =>
    .ofTranscript (session.run .unlimited ((RawLine.all input).map (readingOf interactive)))

end Concord.CommandLine
