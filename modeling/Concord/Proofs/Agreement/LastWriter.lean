import Mathlib.Data.String.Basic
import Concord.Proofs.Agreement.OfferedVerbs

/-!
# Additions to a table

A table is known from the rules that were added to it, one after the other.  A rule takes the place
of an earlier one for the same verb and mood, whatever the letter case of the verb, and of no other
one.  So a look-up finds the rule added last, the size counts the verbs and moods that were ever
added, and the verbs come in their order, however the table keeps them.
-/

namespace Concord

open Unicode (lowercase)

/-! ## Texts in ascending order -/

theorem pairwise_insertAscending {text : String} {others : List String}
    (ascending : others.Pairwise (· < ·)) : (insertAscending text others).Pairwise (· < ·) := by
  induction others with
  | nil => exact List.pairwise_singleton _ _
  | cons other others inductionHypothesis =>
    obtain ⟨first, rest⟩ := List.pairwise_cons.mp ascending
    rw [insertAscending]
    split_ifs with before same
    · refine List.pairwise_cons.mpr ⟨fun later member => ?_, ascending⟩
      rcases List.mem_cons.mp member with rfl | behind
      · exact before
      · exact before.trans (first later behind)
    · exact ascending
    · refine List.pairwise_cons.mpr ⟨fun later member => ?_, inductionHypothesis rest⟩
      rcases mem_insertAscending.mp member with rfl | behind
      · exact lt_of_le_of_ne (not_lt.mp before) (Ne.symm same)
      · exact first later behind

namespace RuleTable

theorem pairwise_verbs (table : RuleTable) : table.verbs.Pairwise (· < ·) := by
  rw [verbs]
  induction table.rules.keys.map Prod.fst with
  | nil => exact .nil
  | cons text texts inductionHypothesis => exact pairwise_insertAscending inductionHypothesis

/-- The verbs are known from the keys, in whatever order these are kept. -/
theorem verbs_eq_of_mem_keys {table other : RuleTable}
    (same : ∀ key, key ∈ table.rules.keys ↔ key ∈ other.rules.keys) :
    table.verbs = other.verbs := by
  have members : table.verbs.Perm other.verbs := by
    refine (List.perm_ext_iff_of_nodup ?_ ?_).mpr fun verb => ?_
    · exact table.pairwise_verbs.imp ne_of_lt
    · exact other.pairwise_verbs.imp ne_of_lt
    · simp only [mem_verbs_iff, same]
  exact members.eq_of_pairwise (fun _ _ _ _ before behind => absurd behind before.asymm)
    table.pairwise_verbs other.pairwise_verbs

/-! ## Calls -/

/-- What a rule is filed under: its verb in lower case, and its mood. -/
def Addition.pair (addition : Addition) : String × Mood :=
  (lowercase addition.verb, addition.mood)

/-- A way to add a rule. -/
inductive Call where
  /-- Add a rule, and hand out the one that it replaces. -/
  | exchange (addition : Addition)
  | insert (addition : Addition)

def Call.addition : Call → Addition
  | exchange addition => addition
  | insert addition => addition

/-- What a call hands out, if it hands out anything, and the table after it. -/
def call (table : RuleTable) : Call → Option (Option VerbRule) × RuleTable
  | .exchange ⟨verb, mood, rule⟩ =>
    let exchanged := table.exchange verb mood rule
    (some exchanged.1, exchanged.2)
  | .insert ⟨verb, mood, rule⟩ => (none, table.insert verb mood rule)

/-- The table after some calls. -/
def afterCalls (table : RuleTable) (calls : List Call) : RuleTable :=
  calls.foldl (fun table call => (table.call call).2) table

variable {table other : RuleTable} {addition first second : Addition}
  {additions before behind : List Addition} {verb : String} {mood : Mood}

theorem afterCalls_eq_insertAll (table : RuleTable) (calls : List Call) :
    table.afterCalls calls = table.insertAll (calls.map Call.addition) := by
  rw [afterCalls, insertAll, List.foldl_map]
  congr 1
  funext table call
  cases call <;> rfl

@[simp]
theorem insertAll_nil : table.insertAll [] = table :=
  rfl

@[simp]
theorem insertAll_cons :
    table.insertAll (addition :: additions) =
      (table.insert addition.verb addition.mood addition.rule).insertAll additions :=
  rfl

@[simp]
theorem insertAll_append :
    table.insertAll (before ++ behind) = (table.insertAll before).insertAll behind :=
  List.foldl_append

/-! ## What is found -/

theorem lookup_insert :
    (table.insert addition.verb addition.mood addition.rule).lookup verb mood =
      if addition.pair = (lowercase verb, mood) then some addition.rule
      else table.lookup verb mood :=
  Dictionary.get?_insert _ _ _ _

/-- The rule that was added last for a verb and a mood. -/
def latest? (additions : List Addition) (verb : String) (mood : Mood) : Option VerbRule :=
  (additions.reverse.find? fun addition => addition.pair = (lowercase verb, mood)).map
    Addition.rule

theorem latest?_cons :
    latest? (addition :: additions) verb mood = (latest? additions verb mood).or
      (if addition.pair = (lowercase verb, mood) then some addition.rule else none) := by
  rw [latest?, List.reverse_cons, List.find?_append, Option.map_or, ← latest?]
  congr 1
  split_ifs with same <;> simp [same]

/-- A look-up finds what was added last, or else what was there before. -/
theorem lookup_insertAll :
    (table.insertAll additions).lookup verb mood =
      (latest? additions verb mood).or (table.lookup verb mood) := by
  induction additions generalizing table with
  | nil => rfl
  | cons addition additions inductionHypothesis =>
    rw [insertAll_cons, inductionHypothesis, lookup_insert, latest?_cons, Option.or_assoc]
    congr 1
    split_ifs <;> rfl

/-! ## How many rules there are -/

/-- The keys are the old ones and those of the additions. -/
theorem mem_keys_insertAll {key : String × Mood} :
    key ∈ (table.insertAll additions).rules.keys ↔
      key ∈ table.rules.keys ∨ key ∈ additions.map Addition.pair := by
  induction additions generalizing table with
  | nil => simp
  | cons addition additions inductionHypothesis =>
    have filed : filing addition.verb addition.mood = addition.pair := rfl
    rw [insertAll_cons, inductionHypothesis, mem_keys_insert, filed, List.map_cons, List.mem_cons,
      or_assoc, or_left_comm]

theorem size_insertAll :
    (table.insertAll additions).size =
      (table.rules.keys ++ additions.map Addition.pair).toFinset.card := by
  rw [size, Dictionary.size_eq_card]
  congr 1
  ext key
  rw [List.mem_toFinset, List.mem_toFinset, List.mem_append, mem_keys_insertAll]

/-! ## Tables with the same rules -/

/-- The tables cannot be told apart by what they are asked for. -/
structure SameRules (table other : RuleTable) : Prop where
  lookup : ∀ verb mood, table.lookup verb mood = other.lookup verb mood
  size : table.size = other.size
  verbs : table.verbs = other.verbs

theorem sameRules_of_get?_eq
    (same : ∀ key, table.rules.get? key = other.rules.get? key) : table.SameRules other where
  lookup verb mood := same (filing verb mood)
  size := Dictionary.size_eq_of_get?_eq same
  verbs := verbs_eq_of_mem_keys fun _ => Dictionary.mem_keys_of_get?_eq same

theorem get?_insertAll_congr (same : ∀ key, table.rules.get? key = other.rules.get? key)
    (key : String × Mood) :
    (table.insertAll additions).rules.get? key = (other.insertAll additions).rules.get? key := by
  induction additions generalizing table other with
  | nil => exact same key
  | cons addition additions inductionHypothesis =>
    refine inductionHypothesis fun key => ?_
    show (table.rules.insert _ _).get? key = (other.rules.insert _ _).get? key
    rw [Dictionary.get?_insert, Dictionary.get?_insert, same]

/-- Two rules in a row that are filed under different keys can be added in either order. -/
theorem sameRules_insertAll_swap (differ : first.pair ≠ second.pair) :
    (table.insertAll (before ++ second :: first :: behind)).SameRules
      (table.insertAll (before ++ first :: second :: behind)) := by
  apply sameRules_of_get?_eq
  rw [insertAll_append, insertAll_append]
  exact get?_insertAll_congr (Dictionary.get?_insert_insert_comm _ differ.symm _ _)

/-! ## The last writer wins -/

/-- The verbs of a table are in lower case, since every rule was filed so. -/
theorem Initial.lowercase_of_mem_verbs (initial : table.Initial)
    (member : verb ∈ (table.insertAll additions).verbs) : lowercase verb = verb := by
  rcases mem_verbs_insertAll.mp member with old | ⟨addition, -, rfl⟩
  · exact (initial.isWord_of_mem_verbs old).2
  · exact Unicode.lowercase_lowercase addition.verb

/-- A verb is listed exactly if a rule is found for it, in some spelling and some mood. -/
theorem Initial.mem_verbs_iff_lookup (initial : table.Initial) :
    verb ∈ (table.insertAll additions).verbs ↔ ∃ written mood rule,
      lowercase written = verb ∧ (table.insertAll additions).lookup written mood = some rule := by
  constructor
  · intro member
    have lower := initial.lowercase_of_mem_verbs member
    rcases mem_verbs_iff.mp member with ⟨mood, key⟩
    rcases Dictionary.mem_keys_iff.mp key with ⟨rule, found⟩
    exact ⟨verb, mood, rule, lower, by rw [lookup, filing, lower, found]⟩
  · rintro ⟨written, mood, rule, rfl, found⟩
    exact mem_verbs_iff.mpr ⟨mood, Dictionary.mem_keys_iff.mpr ⟨rule, found⟩⟩

/-- A table keeps the rules that are added to it by these calls, up to the letter case of verbs. -/
structure LastWriterWins (table : RuleTable) (calls : List Call) : Prop where
  latest : ∀ verb mood, (table.afterCalls calls).lookup verb mood =
    (latest? (calls.map Call.addition) verb mood).or (table.lookup verb mood)
  /-- What an exchange hands out is what would have been found right before it. -/
  handedOut : ∀ before addition behind, calls = before ++ .exchange addition :: behind →
    ((table.afterCalls before).call (.exchange addition)).1 =
      some ((table.afterCalls before).lookup addition.verb addition.mood)
  size : (table.afterCalls calls).size =
    (table.rules.keys ++ calls.map fun call => call.addition.pair).toFinset.card
  isEmpty : (table.afterCalls calls).isEmpty = true ↔ (table.afterCalls calls).size = 0
  /-- The verbs come in the order of their code points, each once. -/
  ascending : (table.afterCalls calls).verbs.Pairwise (· < ·)
  mem_verbs : ∀ verb, verb ∈ (table.afterCalls calls).verbs ↔ ∃ written mood rule,
    lowercase written = verb ∧ (table.afterCalls calls).lookup written mood = some rule
  /-- The order in which the rules are kept makes no difference. -/
  unordered : ∀ other : RuleTable,
    other.rules.entries.Perm (table.afterCalls calls).rules.entries →
      other.SameRules (table.afterCalls calls)
  swap : ∀ before first second behind, calls = before ++ first :: second :: behind →
    first.addition.pair ≠ second.addition.pair →
      (table.afterCalls (before ++ second :: first :: behind)).SameRules (table.afterCalls calls)

/--
A table that starts empty, or as the one that is built in, keeps for each verb and mood the rule
that was added last.
-/
theorem afterCalls_lastWriterWins (initial : table.Initial) (calls : List Call) :
    table.LastWriterWins calls where
  latest verb mood := by
    rw [afterCalls_eq_insertAll, lookup_insertAll]
  handedOut before addition behind _ :=
    congrArg some (Dictionary.exchange_fst _ _ addition.rule)
  size := by
    rw [afterCalls_eq_insertAll, size_insertAll, List.map_map]
    rfl
  isEmpty := decide_eq_true_iff
  ascending := pairwise_verbs _
  mem_verbs verb := by
    rw [afterCalls_eq_insertAll]
    exact initial.mem_verbs_iff_lookup
  unordered other perm := sameRules_of_get?_eq (Dictionary.get?_eq_of_perm perm)
  swap before first second behind split differ := by
    rw [split, afterCalls_eq_insertAll, afterCalls_eq_insertAll, List.map_append, List.map_append]
    exact sameRules_insertAll_swap differ

/-- A built-in verb and a new one, each respelled, the new one with the final form of its sigma. -/
theorem afterCalls_lastWriterWins_of_respelled :
    let calls : List Call :=
      [.insert ⟨"YUKLE", .imperative, going⟩, .insert ⟨"ΟΔΟΣ", .optative, loading⟩,
        .exchange ⟨"οδος", .optative, going⟩]
    builtin.Initial ∧
      (builtin.afterCalls calls).lookup "Yukle" .imperative = some going ∧
      ((builtin.afterCalls (calls.take 2)).call (.exchange ⟨"οδος", .optative, going⟩)).1 =
        some (some loading) ∧
      (builtin.afterCalls calls).size = 9 := by
  intro calls
  have initial : builtin.Initial := .inr rfl
  have wins := afterCalls_lastWriterWins initial calls
  refine ⟨initial, (wins.latest _ _).trans ?_, (wins.handedOut _ _ [] rfl).trans ?_,
    wins.size.trans ?_⟩
  · decide +kernel
  · decide +kernel
  · decide +kernel

end RuleTable

end Concord
