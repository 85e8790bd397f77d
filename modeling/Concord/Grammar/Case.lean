import Concord.Unicode.Lowercase

/-!
# Grammatical case

The role that a string argument plays for its verb.  A case has a native name, which annotations
carry, and an English one; both, and the spellings with diacritics, resolve to it without regard to
letter case.
-/

namespace Concord

inductive Case where
  /-- The subject, and every string without an annotation. -/
  | nominative
  | accusative
  | dative
  | locative
  | ablative
  | instrumental
  deriving DecidableEq, Repr

namespace Case

instance : Inhabited Case := ⟨nominative⟩

/-- Every case, in the order in which names are resolved. -/
def all : List Case :=
  [nominative, accusative, dative, locative, ablative, instrumental]

@[simp] theorem mem_all (tag : Case) : tag ∈ all := by
  cases tag <;> simp [all]

/-- The name that annotations carry. -/
def nativeName : Case → String
  | nominative => "Yalin"
  | accusative => "Belirtme"
  | dative => "Yonelme"
  | locative => "Bulunma"
  | ablative => "Ayrilma"
  | instrumental => "Vasita"

def roleName : Case → String
  | nominative => "Nominative"
  | accusative => "Accusative"
  | dative => "Dative"
  | locative => "Locative"
  | ablative => "Ablative"
  | instrumental => "Instrumental"

/-- The spellings of the native name with diacritics. -/
def accentedNames : Case → List String
  | nominative => ["Yalın"]
  | accusative => []
  | dative => ["Yönelme"]
  | locative => []
  | ablative => ["Ayrılma"]
  | instrumental => ["Vasıta"]

/-- Every name that resolves to the case, up to letter case. -/
def names (tag : Case) : List String :=
  tag.nativeName :: tag.roleName :: tag.accentedNames

/-- The case that a name stands for, without regard to letter case. -/
def ofName? (name : String) : Option Case :=
  all.find? fun tag => tag.names.any fun known =>
    Unicode.lowercase known == Unicode.lowercase name

def render (tag : Case) : String :=
  "[" ++ tag.nativeName ++ "] (" ++ tag.roleName ++ ")"

end Case

end Concord
