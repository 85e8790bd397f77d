import Concord.Agreement.RuleTable
import Concord.Proofs.Dictionary
import Concord.Proofs.Parsing.RoundTrip
import Concord.Proofs.Unicode.Lowercasing

/-!
# The verbs that are offered

The verbs of a table are offered for completion.  They are the verbs for which rules have been added,
in lower case, and each of them has a rule.  A verb that is offered can be typed as well, unless it
comes from a word with a capital I with a dot: its lower case holds a mark, which is no letter.
-/

namespace Concord

open Parsing (AnnotationSpelling LineSpelling parseLine)
open Unicode (dottedCapitalI isAlphabetic lowercase)

/-- Put a text in its place: the members are those that were there, and the text. -/
theorem mem_insertAscending {text other : String} {others : List String} :
    other ∈ insertAscending text others ↔ other = text ∨ other ∈ others := by
  induction others with
  | nil => simp [insertAscending]
  | cons first others inductionHypothesis =>
    rw [insertAscending]
    split_ifs with before same
    · exact List.mem_cons
    · rw [same]
      simp
    · simp only [List.mem_cons, inductionHypothesis]
      exact or_left_comm

/-- A word of letters, which can be a verb. -/
def IsWord (text : String) : Prop :=
  text ≠ "" ∧ ∀ c ∈ text.toList, isAlphabetic c = true

/-- A text is read as a verb by itself exactly if it is a word. -/
theorem parseLine_eq_bare_command_iff {policy : Parsing.AnnotationPolicy} {verb : String} :
    parseLine policy verb = .ok (.command verb .imperative []) ↔ IsWord verb := by
  constructor
  · intro read
    have wellFormed := Expr.wellFormed_of_spelling (Parsing.lineSpelling_of_parseLine read)
    exact ⟨wellFormed.1, wellFormed.2.1⟩
  · rintro ⟨nonempty, letters⟩
    apply Parsing.parseLine_of_lineSpelling
    have bare : AnnotationSpelling Parsing.moods policy [] .imperative := .absent
    simpa using LineSpelling.line Text.blanks_nil
      (.command (by simpa using nonempty) letters bare .none) Text.blanks_nil

namespace RuleTable

/-- A rule that is to be added, for a verb and a mood. -/
structure Addition where
  verb : String
  mood : Mood
  rule : VerbRule

/-- Add rules one after the other. -/
def insertAll (table : RuleTable) (additions : List Addition) : RuleTable :=
  additions.foldl (fun table addition => table.insert addition.verb addition.mood addition.rule)
    table

/-- The verb is one of those in the table. -/
theorem mem_verbs_iff {table : RuleTable} {verb : String} :
    verb ∈ table.verbs ↔ ∃ mood, (verb, mood) ∈ table.rules.keys := by
  have among : ∀ texts : List String, verb ∈ texts.foldr insertAscending [] ↔ verb ∈ texts := by
    intro texts
    induction texts with
    | nil => simp
    | cons text texts inductionHypothesis =>
      rw [List.foldr_cons, mem_insertAscending, inductionHypothesis, List.mem_cons]
  rw [verbs, among]
  simp

theorem mem_keys_insert {table : RuleTable} {verb : String} {mood : Mood} {rule : VerbRule}
    {key : String × Mood} :
    key ∈ (table.insert verb mood rule).rules.keys ↔
      key = filing verb mood ∨ key ∈ table.rules.keys :=
  Dictionary.mem_keys_insert

theorem mem_verbs_insert {table : RuleTable} {verb other : String} {mood : Mood}
    {rule : VerbRule} :
    other ∈ (table.insert verb mood rule).verbs ↔ other = lowercase verb ∨ other ∈ table.verbs := by
  simp only [mem_verbs_iff, mem_keys_insert, filing, Prod.mk.injEq, exists_or]
  simp

/-- The verbs of a table with additions are the old ones and the added ones, in lower case. -/
theorem mem_verbs_insertAll {table : RuleTable} {additions : List Addition} {verb : String} :
    verb ∈ (table.insertAll additions).verbs ↔
      verb ∈ table.verbs ∨ ∃ addition ∈ additions, lowercase addition.verb = verb := by
  induction additions generalizing table with
  | nil => simp [insertAll]
  | cons addition additions inductionHypothesis =>
    rw [insertAll, List.foldl_cons, ← insertAll, inductionHypothesis, mem_verbs_insert]
    simp only [List.mem_cons, exists_eq_or_imp]
    rw [eq_comm, or_assoc, or_left_comm]

theorem verbs_builtin : builtin.verbs = ["git", "yukle"] := by
  decide +kernel

/-- A table that is extended is empty or the one that is built in. -/
def Initial (table : RuleTable) : Prop :=
  table = empty ∨ table = builtin

theorem Initial.isWord_of_mem_verbs {table : RuleTable} (initial : table.Initial) {verb : String}
    (member : verb ∈ table.verbs) : IsWord verb ∧ lowercase verb = verb := by
  rcases initial with rfl | rfl
  · cases member
  · have letters : (["git", "yukle"].all fun verb => verb.toList.all isAlphabetic) = true := by
      decide +kernel
    have lower : (["git", "yukle"].all fun verb => lowercase verb == verb) = true := by
      decide +kernel
    rw [verbs_builtin] at member
    refine ⟨⟨?_, List.all_eq_true.mp (List.all_eq_true.mp letters verb member)⟩, ?_⟩
    · rintro rfl
      exact absurd member (by decide)
    · exact beq_iff_eq.mp (List.all_eq_true.mp lower verb member)

/--
Every verb that is offered has a rule in some mood.  It is read as a command by itself exactly if
none of the words for which it stands has a capital I with a dot in it.
-/
theorem parseLine_of_mem_verbs_iff {table : RuleTable} (initial : table.Initial)
    {additions : List Addition} (words : ∀ addition ∈ additions, IsWord addition.verb)
    {verb : String} (offered : verb ∈ (table.insertAll additions).verbs) :
    (∃ mood rule, (table.insertAll additions).lookup verb mood = some rule) ∧
      ∀ policy, parseLine policy verb = .ok (.command verb .imperative []) ↔
        ∀ addition ∈ additions, lowercase addition.verb = verb →
          dottedCapitalI ∉ addition.verb.toList := by
  have origin := mem_verbs_insertAll.mp offered
  constructor
  · have lower : lowercase verb = verb := by
      rcases origin with old | ⟨addition, -, rfl⟩
      · exact (initial.isWord_of_mem_verbs old).2
      · exact Unicode.lowercase_lowercase addition.verb
    rcases mem_verbs_iff.mp offered with ⟨mood, member⟩
    rcases Dictionary.mem_keys_iff.mp member with ⟨rule, found⟩
    exact ⟨mood, rule, by rw [lookup, filing, lower, found]⟩
  · intro policy
    rw [parseLine_eq_bare_command_iff]
    constructor
    · rintro ⟨-, letters⟩ addition member rfl
      exact (Unicode.forall_isAlphabetic_lowercase_iff (words addition member).2).mp letters
    · intro undotted
      rcases origin with old | ⟨addition, member, rfl⟩
      · exact (initial.isWord_of_mem_verbs old).1
      · have word := words addition member
        exact ⟨Unicode.lowercase_ne_empty word.1,
          Unicode.isAlphabetic_of_mem_lowercase word.2 (undotted addition member rfl)⟩

/-- Two words are added to the table that is built in; the second one cannot be typed as offered. -/
theorem parseLine_of_mem_verbs_iff_of_dotted :
    let additions := [⟨"Yükle", .optative, loading⟩, ⟨"İn", .imperative, going⟩]
    "i\u0307n" ∈ (builtin.insertAll additions).verbs ∧
      (∃ mood rule, (builtin.insertAll additions).lookup "i\u0307n" mood = some rule) ∧
      ∀ policy, parseLine policy "i\u0307n" ≠ .ok (.command "i\u0307n" .imperative []) := by
  intro additions
  have letters : (["Yükle", "İn"].all fun verb => verb.toList.all isAlphabetic) = true := by
    decide +kernel
  have words : ∀ addition ∈ additions, IsWord addition.verb := by
    rw [List.forall_mem_cons, List.forall_mem_singleton]
    exact ⟨⟨by decide, List.all_eq_true.mp (List.all_eq_true.mp letters "Yükle" (by decide))⟩,
      by decide, List.all_eq_true.mp (List.all_eq_true.mp letters "İn" (by decide))⟩
  have offered : "i\u0307n" ∈ (builtin.insertAll additions).verbs := by
    decide +kernel
  rcases parseLine_of_mem_verbs_iff (.inr rfl) words offered with ⟨ruled, read⟩
  refine ⟨offered, ruled, fun policy bare => ?_⟩
  have undotted := (read policy).mp bare ⟨"İn", .imperative, going⟩ (by simp [additions])
    (by decide +kernel)
  exact undotted (by decide)

/-- A verb is offered for completion which no line can say. -/
theorem exists_offered_verb_not_read :
    let table := empty.insertAll [⟨"İ", .imperative, loading⟩]
    "İ".toList.all isAlphabetic = true ∧
      "i\u0307" ∈ table.verbs ∧ "i\u0307" ∈ table.keywords ∧
      ∀ policy, parseLine policy "i\u0307" =
        .error (.ofKind (.parse "unexpected character '\u0307'" 1 2 "i\u0307")) := by
  refine ⟨by decide +kernel, by decide +kernel, by decide +kernel, fun policy => ?_⟩
  cases policy <;> decide +kernel

end RuleTable

end Concord
