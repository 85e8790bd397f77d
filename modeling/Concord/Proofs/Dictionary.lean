import Mathlib.Data.Finset.Card
import Concord.Dictionary

/-!
# What a dictionary holds

Every key stands once in a dictionary, so a value is found for a key exactly if the two stand
together.  What is found does therefore not depend on the order of the entries, and two dictionaries
in which the same is found have the same keys.
-/

namespace Concord.Dictionary

variable {key value : Type} [DecidableEq key]

section Contents

variable {dictionary other : Dictionary key value} {wanted : key} {found : value}

theorem lookupIn_eq_some_iff {entries : List (key × value)}
    (distinct : (entries.map Prod.fst).Nodup) :
    lookupIn wanted entries = some found ↔ (wanted, found) ∈ entries := by
  refine ⟨mem_of_lookupIn, fun member => ?_⟩
  induction entries with
  | nil => cases member
  | cons entry rest inductionHypothesis =>
    rw [List.map_cons, List.nodup_cons] at distinct
    rcases List.mem_cons.mp member with rfl | later
    · exact if_pos rfl
    · have another : entry.1 ≠ wanted := by
        rintro rfl
        exact distinct.1 (List.mem_map.mpr ⟨_, later, rfl⟩)
      rw [lookupIn, if_neg another]
      exact inductionHypothesis distinct.2 later

/-- A value is found for a key exactly if it stands beside it. -/
theorem get?_eq_some_iff :
    dictionary.get? wanted = some found ↔ (wanted, found) ∈ dictionary.entries :=
  lookupIn_eq_some_iff dictionary.distinct

/-- The keys are those for which a value is found. -/
theorem mem_keys_iff : wanted ∈ dictionary.keys ↔ ∃ found, dictionary.get? wanted = some found := by
  simp [keys, get?_eq_some_iff]

/-- The order of the entries makes no difference to a look-up. -/
theorem get?_eq_of_perm (perm : dictionary.entries.Perm other.entries) (asked : key) :
    dictionary.get? asked = other.get? asked := by
  ext found
  rw [get?_eq_some_iff, get?_eq_some_iff, perm.mem_iff]

theorem mem_keys_of_get?_eq (same : ∀ asked, dictionary.get? asked = other.get? asked) :
    wanted ∈ dictionary.keys ↔ wanted ∈ other.keys := by
  rw [mem_keys_iff, mem_keys_iff, same]

theorem size_eq_of_get?_eq (same : ∀ asked, dictionary.get? asked = other.get? asked) :
    dictionary.size = other.size := by
  have perm : dictionary.keys.Perm other.keys :=
    (List.perm_ext_iff_of_nodup dictionary.distinct other.distinct).mpr fun _ =>
      mem_keys_of_get?_eq same
  rw [size_eq_length_keys, size_eq_length_keys, perm.length_eq]

end Contents

section Insertions

variable {first second : key}

/-- Giving values to two different keys has the same outcome in either order. -/
theorem get?_insert_insert_comm (dictionary : Dictionary key value) (differ : first ≠ second)
    (new newer : value) (asked : key) :
    ((dictionary.insert first new).insert second newer).get? asked =
      ((dictionary.insert second newer).insert first new).get? asked := by
  simp only [get?_insert]
  split_ifs with asksSecond asksFirst
  · exact absurd (asksFirst.trans asksSecond.symm) differ
  · rfl
  · rfl
  · rfl

theorem mem_keys_insert {dictionary : Dictionary key value} {wanted asked : key} {new : value} :
    asked ∈ (dictionary.insert wanted new).keys ↔ asked = wanted ∨ asked ∈ dictionary.keys := by
  rw [keys_insert]
  split_ifs with present
  · exact ⟨.inr, fun either => either.elim (fun same => same ▸ present) id⟩
  · rw [List.mem_append, List.mem_singleton, or_comm]

/-- The size is the number of different keys. -/
theorem size_eq_card (dictionary : Dictionary key value) :
    dictionary.size = dictionary.keys.toFinset.card := by
  rw [size_eq_length_keys]
  exact (List.toFinset_card_of_nodup dictionary.distinct).symm

end Insertions

end Concord.Dictionary
