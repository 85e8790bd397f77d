import Concord.Agreement.VerbRule
import Concord.Dictionary

/-!
# Tables of rules

A table holds a rule for some pairs of a verb and a mood.  Verbs that differ only in letter case are
the same verb.  A pair without a rule asks for nothing.
-/

namespace Concord

/-- Put a text in its place among texts in ascending order, unless it is there already. -/
def insertAscending (text : String) : List String → List String
  | [] => [text]
  | other :: others =>
    if text < other then
      text :: other :: others
    else if text = other then
      other :: others
    else
      other :: insertAscending text others

/-- Rules by verb, in lower case, and mood. -/
structure RuleTable where
  rules : Dictionary (String × Mood) VerbRule

namespace RuleTable

/-- What a verb and a mood are filed under. -/
def filing (verb : String) (mood : Mood) : String × Mood :=
  (Unicode.lowercase verb, mood)

def empty : RuleTable :=
  ⟨.empty⟩

def lookup (table : RuleTable) (verb : String) (mood : Mood) : Option VerbRule :=
  table.rules.get? (filing verb mood)

/-- Add a rule, and hand out the one that it replaces. -/
def exchange
    (table : RuleTable)
    (verb : String)
    (mood : Mood)
    (rule : VerbRule) :
    Option VerbRule × RuleTable :=
  let exchanged := table.rules.exchange (filing verb mood) rule
  (exchanged.1, ⟨exchanged.2⟩)

/-- Add a rule, in place of the one that was there. -/
def insert (table : RuleTable) (verb : String) (mood : Mood) (rule : VerbRule) : RuleTable :=
  (table.exchange verb mood rule).2

def size (table : RuleTable) : Nat :=
  table.rules.size

def isEmpty (table : RuleTable) : Bool :=
  table.size = 0

/-- The verbs that have a rule, in lower case and in ascending order. -/
def verbs (table : RuleTable) : List String :=
  (table.rules.keys.map Prod.fst).foldr insertAscending []

/-- The rule of loading, which asks for direct objects. -/
def loading : VerbRule :=
  ⟨"Load", "object", .each .accusative⟩

/-- The rule of going, which asks for targets. -/
def going : VerbRule :=
  ⟨"Go", "target", .each .dative⟩

/-- The table that a session starts with: loading and going, in every mood. -/
def builtin : RuleTable :=
  Mood.all.foldl
    (fun table mood => (table.insert "yukle" mood loading).insert "git" mood going)
    empty

/-- Check the arguments of a command.  Without a rule, everything agrees. -/
def validate
    (table : RuleTable)
    (verb : String)
    (mood : Mood)
    (arguments : List Expr) :
    Except SemanticError Unit :=
  match table.lookup verb mood with
  | none => .ok ()
  | some rule => rule.check verb mood arguments

/-- The words that can be completed: the verbs, the annotations, and the word that ends a session. -/
def keywords (table : RuleTable) : List String :=
  table.verbs ++ Mood.all.map (fun mood => "<" ++ mood.nativeName ++ ">") ++
    Case.all.map (fun tag => "[" ++ tag.nativeName ++ "]") ++ ["exit"]

end RuleTable

end Concord
