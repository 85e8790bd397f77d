import Concord.Evaluation.Environment
import Concord.Parsing.Vocabulary
import Concord.Error

/-!
# The log

What is worth noting about a run, besides its answers.  An event has a level, a text, and named
details.
-/

namespace Concord

open Parsing (AnnotationPolicy Fallback)

/-- How much an event matters. -/
inductive LogLevel where
  | debug
  | info
  deriving DecidableEq, Repr

/-- The name of a level. -/
def LogLevel.name : LogLevel → String
  | debug => "DEBUG"
  | info => "INFO"

/-- Something worth noting. -/
inductive LogEvent where
  | sessionStarted (scope : EnvironmentScope) (policy : AnnotationPolicy)
  | sessionEnded
  /-- Bytes of a line that belong to no character have been replaced. -/
  | lineRepaired
  | nameUnknown (fallback : Fallback)
  | parseFailed (error : Error)
  | commandRejected (verb : String) (mood : Mood) (error : SemanticError)
  | commandExecuted (execution : Execution)
  deriving DecidableEq

namespace LogEvent

/-- How much the event matters. -/
def level : LogEvent → LogLevel
  | commandExecuted _ => .info
  | _ => .debug

/-- The text of the event. -/
def message : LogEvent → String
  | sessionStarted _ _ => "session started"
  | sessionEnded => "session ended"
  | lineRepaired => "replaced invalid UTF-8 in input line"
  | nameUnknown ⟨.grammaticalCase, _⟩ =>
    "unknown case name, using " ++ Parsing.cases.fallback.roleName
  | nameUnknown ⟨.grammaticalMood, _⟩ =>
    "unknown mood name, using " ++ Parsing.moods.fallback.roleName
  | parseFailed _ => "parse failed"
  | commandRejected _ _ _ => "command rejected"
  | commandExecuted execution => execution.render

/-- The details of the event, by name. -/
def fields : LogEvent → List (String × String)
  | sessionStarted scope policy => [("scope", scope.name), ("policy", policy.name)]
  | nameUnknown fallback => [("name", fallback.name)]
  | parseFailed error => [("err", error.message)]
  | commandRejected verb mood error =>
    [("verb", verb), ("mood", mood.roleName), ("err", error.message)]
  | sessionEnded | lineRepaired | commandExecuted _ => []

end LogEvent

end Concord
