import Concord.Unicode.Lowercase

/-!
# Grammatical mood

The force with which a command is given.  As for cases, the native name, the English name and the
spellings with diacritics all resolve to the mood without regard to letter case.
-/

namespace Concord

inductive Mood where
  | indicative
  /-- An order, and every command without an annotation. -/
  | imperative
  | optative
  | conditional
  deriving DecidableEq, Repr

namespace Mood

instance : Inhabited Mood := ⟨imperative⟩

/-- Every mood, in the order in which names are resolved. -/
def all : List Mood :=
  [indicative, imperative, optative, conditional]

@[simp] theorem mem_all (mood : Mood) : mood ∈ all := by
  cases mood <;> simp [all]

/-- The name that annotations carry. -/
def nativeName : Mood → String
  | indicative => "Haber"
  | imperative => "Emir"
  | optative => "Istek"
  | conditional => "Sart"

def roleName : Mood → String
  | indicative => "Indicative"
  | imperative => "Imperative"
  | optative => "Optative"
  | conditional => "Conditional"

/-- The spellings of the native name with diacritics. -/
def accentedNames : Mood → List String
  | indicative => []
  | imperative => []
  | optative => ["İstek"]
  | conditional => ["Şart"]

/-- Every name that resolves to the mood, up to letter case. -/
def names (mood : Mood) : List String :=
  mood.nativeName :: mood.roleName :: mood.accentedNames

/-- The mood that a name stands for, without regard to letter case. -/
def ofName? (name : String) : Option Mood :=
  all.find? fun mood => mood.names.any fun known =>
    Unicode.lowercase known == Unicode.lowercase name

def render (mood : Mood) : String :=
  "<" ++ mood.nativeName ++ "> (" ++ mood.roleName ++ ")"

end Mood

end Concord
