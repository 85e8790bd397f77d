import Concord.Proofs.Session.AnswerLines
import Concord.Proofs.Text.Decoding

/-!
# Controls in plain output

Where a session shows an expression, controls are written by number, and what it says itself has
none.  A parse error, however, repeats a character that begins no token, and the name of an
annotation that a strict session does not know, as they stand in the line.  So a plain session
passes on the escapes of its input there, and nowhere else.
-/

namespace Concord

open Parsing (AnnotationPolicy parseRest)
open Source (Cursor)
open Text.Utf8 (encode mem_encode_iff)

theorem mem_reported_iff {policy : AnnotationPolicy} {line : String} {c : Char} :
    c ∈ reported policy line ↔
      ∃ error, (parseRest policy (Cursor.ofText line)).result = .error error ∧
        (error.fault = .lexical (.unexpectedCharacter c) ∨
          policy = .strict ∧ ∃ category name,
            error.fault = .unknownName category name ∧ c ∈ name.toList) := by
  cases outcome : (parseRest policy (Cursor.ofText line)).result with
  | ok expression => simp [reported, outcome]
  | error error =>
    have grounded := Parsing.grounded_of_parseRest_error outcome
    simp only [reported, outcome, Except.error.injEq, exists_eq_left']
    rcases error with ⟨fault, position⟩
    cases fault with
    | lexical cause => cases cause <;> simp [Parsing.SyntaxFault.repeated, eq_comm]
    | unknownName category name => simp [Parsing.SyntaxFault.repeated, grounded.1]
    | _ => simp [Parsing.SyntaxFault.repeated]

/-! ## Streams -/

namespace RawLine

theorem subset_of_next? {bytes rest : List UInt8} {line : RawLine}
    (found : next? bytes = some (line, rest)) : line.bytes ⊆ bytes ∧ rest ⊆ bytes := by
  cases bytes with
  | nil => cases found
  | cons first others =>
    cases found
    exact ⟨(List.takeWhile_sublist _).subset,
      ((List.drop_sublist 1 _).trans (List.dropWhile_sublist _)).subset⟩

/-- The lines of a stream are made of its bytes. -/
theorem bytes_subset_of_mem_all {bytes : List UInt8} {line : RawLine} (member : line ∈ all bytes) :
    line.bytes ⊆ bytes := by
  induction length : bytes.length using Nat.strong_induction_on generalizing bytes with
  | _ size inductionHypothesis =>
    cases found : next? bytes with
    | none =>
      cases bytes with
      | nil => simp at member
      | cons first others => cases found
    | some split =>
      rcases split with ⟨next, rest⟩
      have within := subset_of_next? found
      have shorter : rest.length < size := length ▸ length_next?_lt found
      rw [all_of_next? found, List.mem_cons] at member
      rcases member with rfl | later
      · exact within.1
      · exact List.Subset.trans (inductionHypothesis _ shorter later rfl) within.2

theorem dropReturn_subset (bytes : List UInt8) : dropReturn bytes ⊆ bytes := by
  unfold dropReturn
  split
  · exact List.dropLast_subset bytes
  · exact List.Subset.refl bytes

end RawLine

/-- A character below 128 in a line that a stream asks about is among the bytes of the stream. -/
theorem Reading.toUInt8_mem_of_mem_questions {bytes : List UInt8} {line : String} {c : Char}
    (question : line ∈ questions ((RawLine.all bytes).map RawLine.streamed))
    (member : c ∈ line.toList) (ascii : c.toNat < 0x80) : c.toUInt8 ∈ bytes := by
  rcases List.mem_filterMap.mp question with ⟨reading, heard, asks⟩
  rcases List.mem_map.mp ((List.takeWhile_sublist _).subset heard) with ⟨raw, cut, rfl⟩
  have same : line = Text.Utf8.decode (RawLine.dropReturn raw.bytes) := by
    simp only [RawLine.streamed, question?] at asks
    split at asks
    · cases asks
    · exact (Option.some.inj asks).symm
  rw [same] at member
  exact RawLine.bytes_subset_of_mem_all cut
    (RawLine.dropReturn_subset _ (Text.Utf8.toUInt8_mem_of_mem_decode member ascii))

namespace Session

variable {session : Session} {c : Char}

theorem not_mem_banner (control : c.toNat < 0x20) (inner : c ≠ '\n') : c ∉ banner.toList := by
  have ends : (banner.toList.all fun c => 0x20 ≤ c.toNat || c = '\n') = true := by decide
  intro member
  have plain := List.all_eq_true.mp ends c member
  rw [Bool.or_eq_true, decide_eq_true_iff, decide_eq_true_iff] at plain
  rcases plain with plain | feed
  · omega
  · exact inner feed

/-- A plain session writes a control, line ends apart, exactly if an answer repeats it. -/
theorem mem_output_iff (plain : session.styled = false) (control : c.toNat < 0x20)
    (inner : c ≠ '\n') (lacks : session.rules.Lacks c) (readings : List Reading) :
    c.toUInt8 ∈ (session.run .unlimited readings).output ↔
      ∃ line ∈ Reading.questions readings, c ∈ reported session.policy line := by
  have discreet : session.Discreet := fun styled => absurd (plain.symm.trans styled) (by decide)
  have opening : c ∉ (if session.showsBanner then banner else "").toList := by
    split
    · exact not_mem_banner control inner
    · exact List.not_mem_nil
  have block (line : String) :
      c ∈ (lineBlock session.policy session.rules false line).toList ↔
        c ∈ reported session.policy line := by
    rw [lineBlock_plain, ← exists_mem_answerLines_iff control lacks]
    simp [inner]
  rw [output_run discreet, plain, mem_encode_iff (by omega)]
  simp [opening, block]

/--
With the rules that are built in, a plain session writes an escape exactly where it reports one as
an unexpected character or within the unknown name of an annotation.  So it writes none if there is
none in its input.
-/
theorem escape_mem_output_iff (session : Session) (builtin : session.rules = .builtin)
    (plain : session.styled = false) :
    (∀ readings, 0x1B ∈ (session.run .unlimited readings).output ↔
      ∃ line ∈ Reading.questions readings, ∃ error,
        (parseRest session.policy (Cursor.ofText line)).result = .error error ∧
          (error.fault = .lexical (.unexpectedCharacter '\x1b') ∨
            session.policy = .strict ∧ ∃ category name,
              error.fault = .unknownName category name ∧ '\x1b' ∈ name.toList)) ∧
      ∀ bytes, 0x1B ∉ bytes →
        0x1B ∉ (session.run .unlimited ((RawLine.all bytes).map RawLine.streamed)).output := by
  have lacks : session.rules.Lacks '\x1b' := builtin ▸ RuleTable.lacks_builtin (by decide)
  have written := mem_output_iff plain (by decide) (by decide) lacks
  refine ⟨fun readings => ?_, fun bytes free leaked => ?_⟩
  · simp only [← mem_reported_iff]
    exact written readings
  · rcases (written _).mp leaked with ⟨line, question, member⟩
    have stands := (mem_of_mem_reported member).1
    exact free (Reading.toUInt8_mem_of_mem_questions question stands (by decide))

/-- An escape in the place of a mood, where a strict session does not know it. -/
theorem escape_mem_output_iff_of_unknown_name :
    let session : Session := { start with policy := .strict }
    let readings : List Reading := [.line "x<\x1b>" false]
    session.rules = .builtin ∧ session.styled = false ∧
      0x1B ∈ (session.run .unlimited readings).output := by
  intro session readings
  have builtin : session.rules = .builtin := rfl
  have plain : session.styled = false := rfl
  have asked : "x<\x1b>" ∈ Reading.questions readings := by decide
  have failed : (parseRest .strict (Cursor.ofText "x<\x1b>")).result =
      .error ⟨.unknownName .grammaticalMood "\x1b", ⟨2, 1, 3⟩⟩ := by decide +kernel
  have leaks := ((escape_mem_output_iff session builtin plain).1 readings).mpr
    ⟨_, asked, _, failed, .inr ⟨rfl, .grammaticalMood, "\x1b", rfl, by decide⟩⟩
  exact ⟨builtin, plain, leaks⟩

/-- A stream that is nothing but an escape. -/
theorem exists_escape_of_stream :
    let session : Session := { start with showsBanner := false }
    let readings := (RawLine.all [0x1B]).map RawLine.streamed
    session.rules = .builtin ∧ session.styled = false ∧
      0x1B ∈ (session.run .unlimited readings).output := by
  intro session readings
  have cut : RawLine.all [0x1B] = [⟨[0x1B], false⟩] := by
    have only : RawLine.next? [0x1B] = some (⟨[0x1B], false⟩, []) := by decide
    rw [RawLine.all_of_next? only, RawLine.all_nil]
  have streamed : RawLine.streamed ⟨[0x1B], false⟩ = .line "\x1b" false := by
    simp [RawLine.streamed, RawLine.dropReturn, RawLine.carriageReturn, Text.Utf8.decode,
      Text.Utf8.isWellFormed, Text.Utf8.decode?, Text.Utf8.readChar]
  have heard : readings = [.line "\x1b" false] := by
    simp only [readings, cut, List.map_cons, List.map_nil, streamed]
  have failed : (parseRest .lenient (Cursor.ofText "\x1b")).result =
      .error ⟨.lexical (.unexpectedCharacter '\x1b'), ⟨0, 1, 1⟩⟩ := by decide +kernel
  have repeated : '\x1b' ∈ reported .lenient "\x1b" := mem_reported_iff.mpr ⟨_, failed, .inl rfl⟩
  have asked : "\x1b" ∈ Reading.questions readings := by
    rw [heard]
    decide
  have control : ('\x1b' : Char).toNat < 0x20 := by decide
  have written : ('\x1b' : Char).toUInt8 ∈ (session.run .unlimited readings).output :=
    (mem_output_iff rfl control (by decide) (RuleTable.lacks_builtin control) readings).mpr
      ⟨_, asked, repeated⟩
  exact ⟨rfl, rfl, written⟩

end Session

end Concord
