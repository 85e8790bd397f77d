import Concord.Dictionary
import Concord.Expr.Render
import Concord.Value

/-!
# Environments

The names that are bound while expressions are evaluated, and the commands that have been executed
so far.
-/

namespace Concord

/-- A command that has been executed. -/
structure Execution where
  verb : String
  mood : Mood
  /-- The arguments, not evaluated. -/
  arguments : List Expr
  deriving DecidableEq

/-- The execution in words. -/
def Execution.render (execution : Execution) : String :=
  "Executing: " ++ execution.verb ++ " (" ++ execution.mood.roleName ++ ") with args: [" ++
    Text.joinWith ", " (Expr.renderAll execution.arguments) ++ "]"

/-- How long an environment lives. -/
inductive EnvironmentScope where
  | perLine
  | session
  deriving DecidableEq, Repr

instance : Inhabited EnvironmentScope := ⟨.perLine⟩

def EnvironmentScope.name : EnvironmentScope → String
  | perLine => "PerLine"
  | session => "Session"

/-- Bound names, and the commands executed. -/
structure Environment where
  bindings : Dictionary String Value
  /-- The executed commands, the earliest first. -/
  trace : List Execution

namespace Environment

def empty : Environment :=
  ⟨.empty, []⟩

def get? (environment : Environment) (name : String) : Option Value :=
  environment.bindings.get? name

def contains (environment : Environment) (name : String) : Bool :=
  (environment.get? name).isSome

/-- The value of a name that has to be bound. -/
def valueOf (environment : Environment) (name : String) : Value :=
  (environment.get? name).getD (.failure ("unbound variable '" ++ name ++ "'"))

/-- Bind a name to a value, and hand out the value that it had. -/
def bind
    (environment : Environment)
    (name : String)
    (value : Value) :
    Option Value × Environment :=
  let exchanged := environment.bindings.exchange name value
  (exchanged.1, ⟨exchanged.2, environment.trace⟩)

def size (environment : Environment) : Nat :=
  environment.bindings.size

def isEmpty (environment : Environment) : Bool :=
  environment.size = 0

def record (environment : Environment) (execution : Execution) : Environment :=
  ⟨environment.bindings, environment.trace ++ [execution]⟩

/-- Hand out the executed commands, and forget them. -/
def takeTrace (environment : Environment) : List Execution × Environment :=
  (environment.trace, ⟨environment.bindings, []⟩)

end Environment

end Concord
