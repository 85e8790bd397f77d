/-!
# Colours on a terminal

A painted text stands between the escape sequence of its colour and the one that ends all colours.
-/

namespace Concord.Terminal

/-- The ways in which text is set off on a terminal. -/
inductive Paint where
  | red
  | dim
  | boldBlue
  | boldGreen
  | yellow
  | cyan
  | magenta
  deriving DecidableEq, Repr

/-- The escape sequence with which a colour begins. -/
def Paint.sequence : Paint → String
  | red => "\x1b[31m"
  | dim => "\x1b[2m"
  | boldBlue => "\x1b[1;34m"
  | boldGreen => "\x1b[1;32m"
  | yellow => "\x1b[33m"
  | cyan => "\x1b[36m"
  | magenta => "\x1b[35m"

/-- The escape sequence with which every colour ends. -/
def resetSequence : String :=
  "\x1b[0m"

def Paint.apply (paint : Paint) (text : String) : String :=
  paint.sequence ++ text ++ resetSequence

def Paint.applyIf (paint : Paint) (styled : Bool) (text : String) : String :=
  if styled then paint.apply text else text

/-- A prompt, in colour unless the terminal asks for something out of the ordinary. -/
def decoratePrompt (prompt : String) (ordinary : Bool) : String :=
  Paint.boldBlue.applyIf ordinary prompt

/-- The rest of an earlier line, offered while a line is typed. -/
def decorateHint (hint : String) : String :=
  Paint.dim.apply hint

end Concord.Terminal
