import Concord.Proofs.Source.Tokenization
import Concord.Terminal.Completion

/-!
# Completed words

The word before the cursor begins behind the last blank.  Whether it lies in a string is told from
the quotes in front of it and from its first character alone.  For keywords without quotes this
comes to the same as looking for a string without an end among the tokens: where the two tests
differ, the word itself has a quote, and no keyword begins with it.
-/

namespace Concord.Terminal

open Source (tokenize)
open Text (byteLength isBlank splitAtByte?)

/-- A string is still open behind these characters. -/
def LeavesOpenString (characters : List Char) : Prop :=
  ∃ token ∈ tokenize (String.ofList characters), token.kind = .fault .unterminatedString

/-- The completion is that of a word between `before` and `behind`, to one of the keywords. -/
structure Completion.Completes (completion : Completion) (keywords : List String)
    (before word behind : List Char) : Prop where
  start : completion.start = byteLength before
  unbroken : ∀ c ∈ word, isBlank c = false
  /-- The word begins behind a blank, or with the line. -/
  begins : before = [] ∨ ∃ front blank, before = front ++ [blank] ∧ isBlank blank = true
  quiet : LeavesOpenString (before ++ word) → completion.candidates = []
  offered : ¬ LeavesOpenString (before ++ word) →
    completion.candidates =
      (keywords.filter fun keyword => word <+: keyword.toList).map fun keyword =>
        ⟨keyword, keyword⟩
  /-- What has been typed stays when a candidate is put in the place of the word. -/
  kept : ∀ candidate ∈ completion.candidates,
    before ++ word <+: before ++ (candidate.replacement.toList ++ behind)

section Words

variable {keywords : List String} {typed before word behind : List Char}

/-- The last word is the longest run of characters at the end that are no blanks. -/
theorem splitWord_eq_iff :
    splitWord typed = (before, word) ↔
      typed = before ++ word ∧ (∀ c ∈ word, isBlank c = false) ∧
        ∀ c ∈ before.getLast?, isBlank c = true := by
  have split : typed.reverse.takeWhile (!isBlank ·) = word.reverse ∧
      typed.reverse.dropWhile (!isBlank ·) = before.reverse ↔ _ :=
    Text.split_iff
  simp only [← List.reverse_append, List.reverse_inj, List.mem_reverse, List.head?_reverse,
    Bool.not_eq_true', Bool.not_eq_false'] at split
  rw [← split, splitWord, Prod.mk.injEq, and_comm, List.reverse_eq_iff, List.reverse_eq_iff]

/-- Behind a word without quotes, a string is open exactly if one was open in front of it. -/
theorem insideString_iff (unquoted : '"' ∉ word) :
    insideString before word = true ↔ LeavesOpenString (before ++ word) := by
  have first : word.head? ≠ some '"' := fun quote => unquoted (List.mem_of_head? quote)
  have ahead : Source.TokensAhead 0 _ (tokenize (String.ofList (before ++ word))) :=
    (Source.Cursor.ofText _).tokensAhead_tokens
  rw [LeavesOpenString, ahead.unterminated_iff]
  simp [Source.Cursor.ofText, insideString, first, List.count_eq_zero.mpr unquoted]

/-- No keyword is offered for a word that has a quote. -/
theorem candidatesFor_eq_nil (unquoted : ∀ keyword ∈ keywords, '"' ∉ keyword.toList)
    (quote : '"' ∈ word) : candidatesFor keywords word = [] := by
  rw [candidatesFor, List.map_eq_nil_iff, List.filter_eq_nil_iff]
  intro keyword member begins
  exact unquoted keyword member ((List.isPrefixOf_iff_prefix.mp begins).subset quote)

theorem candidatesFor_eq (keywords : List String) (word : List Char) :
    candidatesFor keywords word =
      (keywords.filter fun keyword => word <+: keyword.toList).map fun keyword =>
        ⟨keyword, keyword⟩ := by
  simp only [candidatesFor, ← List.isPrefixOf_iff_prefix, Bool.decide_eq_true]

theorem prefix_of_mem_candidatesFor {candidate : Candidate}
    (member : candidate ∈ candidatesFor keywords word) :
    word <+: candidate.replacement.toList := by
  rcases List.mem_map.mp member with ⟨keyword, among, rfl⟩
  exact List.isPrefixOf_iff_prefix.mp (List.mem_filter.mp among).2

end Words

/--
At every place of a line a word is completed, to all keywords that begin with it, or to none if the
tokens up to there leave a string open.
-/
theorem complete?_agrees_with_tokens (keywords : List String) (line : String)
    {typed behind : List Char} (unquoted : ∀ keyword ∈ keywords, '"' ∉ keyword.toList)
    (whole : line.toList = typed ++ behind) :
    ∃ completion before word,
      complete? keywords line (byteLength typed) = some completion ∧ typed = before ++ word ∧
        completion.Completes keywords before word behind := by
  rcases split : splitWord typed with ⟨before, word⟩
  rcases splitWord_eq_iff.mp split with ⟨rfl, unbroken, ends⟩
  have completed : complete? keywords line (byteLength (before ++ word)) =
      some ⟨byteLength before,
        if insideString before word then [] else candidatesFor keywords word⟩ := by
    simp only [complete?, whole, Text.splitAtByte?_append, Option.map_some, split]
  refine ⟨_, before, word, completed, rfl, ⟨rfl, unbroken, ?_, fun opened => ?_, fun closed => ?_,
    fun candidate member => ?_⟩⟩
  · rcases List.eq_nil_or_concat before with rfl | ⟨front, blank, rfl⟩
    · exact .inl rfl
    · exact .inr ⟨front, blank, List.concat_eq_append, ends blank (by simp)⟩
  · by_cases quote : '"' ∈ word
    · simp only [candidatesFor_eq_nil unquoted quote, ite_self]
    · exact if_pos ((insideString_iff quote).mpr opened)
  · rw [← candidatesFor_eq]
    by_cases quote : '"' ∈ word
    · simp only [candidatesFor_eq_nil unquoted quote, ite_self]
    · exact if_neg ((insideString_iff quote).not.mpr closed)
  · have offered : candidate ∈ candidatesFor keywords word := by
      simp only at member
      split at member
      · cases member
      · exact member
    rcases prefix_of_mem_candidatesFor offered with ⟨more, same⟩
    exact ⟨more ++ behind, by simp [← same]⟩

/-- A word behind a string with a blank in it and a wide blank, in front of a quote. -/
theorem complete?_agrees_with_tokens_behind_string :
    let keywords := ["git", "<Emir>", "<Emir>"]
    let line := "ü \"a b\"\u3000<E \""
    let typed := "ü \"a b\"\u3000<E".toList
    (∀ keyword ∈ keywords, '"' ∉ keyword.toList) ∧
      ∃ completion before word,
        complete? keywords line 13 = some completion ∧ typed = before ++ word ∧
          completion.Completes keywords before word " \"".toList := by
  intro keywords line typed
  have unquoted : ∀ keyword ∈ keywords, '"' ∉ keyword.toList := by decide
  have whole : line.toList = typed ++ " \"".toList := by decide
  have place : byteLength typed = 13 := by decide
  have completes := complete?_agrees_with_tokens keywords line unquoted whole
  rw [place] at completes
  exact ⟨unquoted, completes⟩

end Concord.Terminal
