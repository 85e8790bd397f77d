import Mathlib.Data.List.Find
import Concord.Grammar.Case
import Concord.Grammar.Mood

/-!
# Names of cases and moods

Every name of a case resolves to this case, and every name of a mood to this mood.  Names are
compared in lower case, and no two cases and no two moods have a name in common in this form.
-/

namespace Concord

open Unicode (lowercase)

section Resolution

variable {tag : Type} {all : List tag} {names folded : tag → List String}

/-- Known names can be brought to lower case beforehand. -/
theorem find?_names_eq
    (folds : ∀ found ∈ all, (names found).map lowercase = folded found) (name : String) :
    (all.find? fun found => (names found).any fun known => lowercase known == lowercase name) =
      all.find? fun found => (folded found).contains (lowercase name) := by
  apply List.find?_congr
  intro found member
  rw [← folds found member, List.contains_eq_any_beq, List.any_map]
  simp only [Function.comp_def, Bool.beq_comm]

/-- A name resolves to what it names where no two of the names coincide in lower case. -/
theorem find?_names_of_mem
    (folds : ∀ found ∈ all, (names found).map lowercase = folded found)
    (apart : ∀ found ∈ all, ∀ name ∈ folded found,
      (all.find? fun other => (folded other).contains name) = some found)
    {found : tag} {name : String} (listed : found ∈ all) (member : name ∈ names found) :
    (all.find? fun other => (names other).any fun known => lowercase known == lowercase name) =
      some found := by
  rw [find?_names_eq folds]
  apply apart found listed
  rw [← folds found listed]
  exact List.mem_map_of_mem member

end Resolution

namespace Case

/-- The names of a case in lower case. -/
def foldedNames : Case → List String
  | nominative => ["yalin", "nominative", "yalın"]
  | accusative => ["belirtme", "accusative"]
  | dative => ["yonelme", "dative", "yönelme"]
  | locative => ["bulunma", "locative"]
  | ablative => ["ayrilma", "ablative", "ayrılma"]
  | instrumental => ["vasita", "instrumental", "vasıta"]

theorem lowercase_names (tag : Case) : tag.names.map lowercase = tag.foldedNames := by
  cases tag <;> decide +kernel

/-- Every name of a case resolves to it. -/
theorem ofName?_of_mem_names {tag : Case} {name : String} (member : name ∈ tag.names) :
    ofName? name = some tag :=
  find?_names_of_mem (fun tag _ => tag.lowercase_names) (by decide) tag.mem_all member

end Case

namespace Mood

/-- The names of a mood in lower case. -/
def foldedNames : Mood → List String
  | indicative => ["haber", "indicative"]
  | imperative => ["emir", "imperative"]
  | optative => ["istek", "optative", "i\u0307stek"]
  | conditional => ["sart", "conditional", "şart"]

theorem lowercase_names (mood : Mood) : mood.names.map lowercase = mood.foldedNames := by
  cases mood <;> decide +kernel

/-- Every name of a mood resolves to it. -/
theorem ofName?_of_mem_names {mood : Mood} {name : String} (member : name ∈ mood.names) :
    ofName? name = some mood :=
  find?_names_of_mem (fun mood _ => mood.lowercase_names) (by decide) mood.mem_all member

end Mood

end Concord
