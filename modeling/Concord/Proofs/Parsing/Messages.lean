import Concord.Parsing.SyntaxError

/-!
# What messages tell

A message is made for a reader, but it also tells the fault apart from others.  It names everything
that the fault holds, except that of a token which stands where something else is expected it names
only the kind.
-/

namespace Concord.Parsing

open Source (LexicalFault TokenKind)

namespace SyntaxFault

/-- The letters with which a message begins, which tell the kinds of faults apart. -/
def initials : SyntaxFault → List Char
  | lexical (.unexpectedCharacter _) => ['u', 'n', 'e']
  | lexical .unterminatedString => ['u', 'n', 't']
  | unexpected _ _ => ['e', 'x', 'p']
  | missingName _ => ['m', 'i', 's']
  | unknownName _ _ => ['u', 'n', 'k']

theorem take_message (fault : SyntaxFault) : fault.message.toList.take 3 = fault.initials := by
  rcases fault with ⟨⟨c⟩ | _⟩ | ⟨expected, found⟩ | category | ⟨category, name⟩
  · change ("unexpected character '" ++ c.toString ++ "'").toList.take 3 = _
    simp [initials]
  · change "unterminated string literal".toList.take 3 = _
    simp [initials]
  · simp [message, initials]
  · simp [message, initials]
  · simp [message, initials]

/-- A fault that is not about a token is known from its message. -/
theorem eq_of_message_eq {fault other : SyntaxFault} (same : fault.message = other.message)
    (special : ∀ expected found, other ≠ .unexpected expected found) : fault = other := by
  have letters : fault.initials = other.initials := by
    rw [← take_message, ← take_message, same]
  rcases other with ⟨⟨c⟩ | _⟩ | ⟨expected, found⟩ | category | ⟨category, name⟩
  · rcases fault with ⟨⟨d⟩ | _⟩ | _ | _ | _ <;> simp [initials] at letters
    have text : "unexpected character '" ++ d.toString ++ "'" =
        "unexpected character '" ++ c.toString ++ "'" := same
    simpa [← String.toList_inj] using text
  · rcases fault with ⟨⟨d⟩ | _⟩ | _ | _ | _ <;> simp [initials] at letters
    rfl
  · exact absurd rfl (special expected found)
  · rcases fault with ⟨⟨d⟩ | _⟩ | _ | other | _ <;> simp [initials] at letters
    cases category <;> cases other <;>
      simp [message, Category.word, ← String.toList_inj] at same ⊢
  · rcases fault with ⟨⟨d⟩ | _⟩ | _ | _ | ⟨other, text⟩ <;> simp [initials] at letters
    cases category <;> cases other <;>
      simp [message, Category.word, ← String.toList_inj] at same ⊢
    · exact same
    · exact same

/-- The messages that end with these words are those of the end of the input. -/
theorem endOfInput_suffix_iff {fault : SyntaxFault} :
    "found end of input".toList <:+ fault.message.toList ↔
      ∃ expected, fault = .unexpected expected .endOfInput := by
  constructor
  · intro ends
    have letter : fault.message.toList.reverse.take 1 = ['t'] := by
      rcases ends with ⟨front, whole⟩
      rw [← whole]
      simp
    rcases fault with ⟨⟨c⟩ | _⟩ | ⟨expected, found⟩ | category | ⟨category, name⟩
    · change ("unexpected character '" ++ c.toString ++ "'").toList.reverse.take 1 = _ at letter
      simp at letter
    · change "unterminated string literal".toList.reverse.take 1 = _ at letter
      simp at letter
    · cases found with
      | endOfInput => exact ⟨expected, rfl⟩
      | _ => simp [message, TokenKind.name] at letter
    · simp [message] at letter
    · simp [message] at letter
  · rintro ⟨expected, rfl⟩
    refine ⟨("expected " ++ expected.description ++ ", ").toList, ?_⟩
    simp [message, TokenKind.name]

end SyntaxFault

end Concord.Parsing
