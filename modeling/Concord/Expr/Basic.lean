import Concord.Grammar.Case
import Concord.Grammar.Mood

/-!
# Expressions

What a line says.  A line itself is a string with its case, or a verb with its mood and such strings
as arguments; names and sequences can only be built by a program.
-/

namespace Concord

inductive Expr where
  | literal (text : String) (tag : Case)
  | reference (name : String)
  /-- A verb, as written, with its mood and its arguments. -/
  | command (verb : String) (mood : Mood) (arguments : List Expr)
  | sequence (items : List Expr)

namespace Expr

def case? : Expr → Option Case
  | literal _ tag => some tag
  | _ => none

def mood? : Expr → Option Mood
  | command _ mood _ => some mood
  | _ => none

def verb? : Expr → Option String
  | command verb _ _ => some verb
  | _ => none

def arguments? : Expr → Option (List Expr)
  | command _ _ arguments => some arguments
  | _ => none

def isCommand : Expr → Bool
  | command .. => true
  | _ => false

mutual

def same : Expr → Expr → Bool
  | literal text tag, literal text' tag' => text == text' && tag == tag'
  | reference name, reference name' => name == name'
  | command verb mood arguments, command verb' mood' arguments' =>
    verb == verb' && mood == mood' && sameAll arguments arguments'
  | sequence items, sequence items' => sameAll items items'
  | _, _ => false

def sameAll : List Expr → List Expr → Bool
  | [], [] => true
  | item :: items, item' :: items' => same item item' && sameAll items items'
  | _, _ => false

end

mutual

theorem same_iff : ∀ left right : Expr, same left right = true ↔ left = right
  | literal .., literal .. => by simp [same]
  | reference _, reference _ => by simp [same]
  | command _ _ arguments, command _ _ arguments' => by
    simp [same, sameAll_iff arguments arguments', and_assoc]
  | sequence items, sequence items' => by simp [same, sameAll_iff items items']
  | literal .., reference _ | literal .., command .. | literal .., sequence _
  | reference _, literal .. | reference _, command .. | reference _, sequence _
  | command .., literal .. | command .., reference _ | command .., sequence _
  | sequence _, literal .. | sequence _, reference _ | sequence _, command .. => by simp [same]

theorem sameAll_iff : ∀ left right : List Expr, sameAll left right = true ↔ left = right
  | [], [] => by simp [sameAll]
  | item :: items, item' :: items' => by
    simp [sameAll, same_iff item item', sameAll_iff items items']
  | [], _ :: _ | _ :: _, [] => by simp [sameAll]

end

instance : DecidableEq Expr :=
  fun left right => decidable_of_iff _ (same_iff left right)

end Expr

end Concord
