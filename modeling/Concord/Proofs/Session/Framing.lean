import Mathlib.Data.List.Forall2
import Concord.Proofs.Session.AnswerLines
import Concord.Proofs.Session.StreamLines

/-!
# Framed answers

Whoever reads the plain output of a session line by line can tell the answers apart.  Every answer
is one line that names a parse error, or a line with a tree and a line with the verdict on it; every
line is ended; and no text of the user, wherever it comes to stand in an answer, begins or ends one.
-/

namespace Concord

open Parsing (AnnotationPolicy parseLine)
open Text.Utf8 (encode)

/-! ## Cutting the output -/

namespace RawLine

/-- A text without line feeds, and a line feed behind it, are read back as one line. -/
theorem next?_encode {text : String} (unbroken : '\n' ∉ text.toList) (behind : List UInt8) :
    next? (encode text ++ lineFeed :: behind) = some (⟨encode text, true⟩, behind) := by
  have outside : lineFeed ∉ encode text := (Text.Utf8.mem_encode_iff (by decide)).not.mpr unbroken
  exact next?_append outside behind

/-- Texts without line feeds, each followed by one, are read back line by line. -/
theorem all_encode_lines {lines : List String} (unbroken : ∀ line ∈ lines, '\n' ∉ line.toList) :
    all (lines.flatMap fun line => encode (line ++ "\n")) =
      lines.map fun line => ⟨encode line, true⟩ := by
  induction lines with
  | nil => simp
  | cons line others inductionHypothesis =>
    rcases List.forall_mem_cons.mp unbroken with ⟨first, rest⟩
    have found := next?_encode first (others.flatMap fun line => encode (line ++ "\n"))
    have ended : encode (line ++ "\n") = encode line ++ [lineFeed] := by
      rw [Text.Utf8.encode_append]
      rfl
    rw [List.flatMap_cons, ended, List.append_assoc, List.singleton_append, all_of_next? found,
      inductionHypothesis rest, List.map_cons]

end RawLine

/-! ## Frames -/

/-- What the lines of an answer to a line look like under a policy. -/
inductive Frame (policy : AnnotationPolicy) (line : String) : List String → Prop
  | parseError {error : Error} (refused : parseLine policy line = .error error) :
      Frame policy line ["Parse Error: " ++ error.message]
  | accepted {expression : Expr} (read : parseLine policy line = .ok expression) :
      Frame policy line ["AST: " ++ expression.inspect, "OK"]
  | rejected {expression : Expr} {reason : String} (read : parseLine policy line = .ok expression) :
      Frame policy line ["AST: " ++ expression.inspect, "RUNTIME ERROR: " ++ reason]

theorem frame_answerLines (policy : AnnotationPolicy) (rules : RuleTable) (line : String) :
    Frame policy line (answerLines policy rules line) := by
  cases read : parseLine policy line with
  | error error =>
    simp only [answerLines, read]
    exact .parseError read
  | ok expression =>
    simp only [answerLines, read]
    cases expression with
    | command verb mood arguments =>
      cases checked : rules.validate verb mood arguments with
      | ok =>
        simp only [plainVerdict, checked]
        exact .accepted read
      | error error =>
        simp only [plainVerdict, checked]
        exact .rejected read
    | _ => exact .accepted read

namespace Session

variable {session : Session}

/-- A plain session that shows no banner writes the lines of its answers and nothing else. -/
theorem output_plain (plain : session.styled = false) (silent : session.showsBanner = false)
    (readings : List Reading) :
    (session.run .unlimited readings).output =
      ((Reading.questions readings).flatMap (answerLines session.policy session.rules)).flatMap
        fun line => encode (line ++ "\n") := by
  have discreet : session.Discreet := fun styled => absurd (plain.symm.trans styled) (by decide)
  rw [output_run discreet, plain, silent]
  simp [lineBlock_plain, List.flatMap_map, List.flatMap_assoc]

/--
The plain output of a session, read line by line, falls into one frame for each line that the
session answers, in order, and every line of it is ended.
-/
theorem run_is_framed :
    RuleTable.builtin.Lacks '\n' ∧
      ∀ (session : Session) (readings : List Reading), session.rules.Lacks '\n' →
        session.styled = false → session.showsBanner = false →
        ∃ blocks, List.Forall₂ (Frame session.policy) (Reading.questions readings) blocks ∧
          RawLine.all (session.run .unlimited readings).output =
            blocks.flatten.map fun line => ⟨encode line, true⟩ := by
  refine ⟨RuleTable.lacks_builtin (by decide), fun session readings lacks plain silent => ?_⟩
  refine ⟨(Reading.questions readings).map (answerLines session.policy session.rules), ?_, ?_⟩
  · rw [List.forall₂_map_right_iff, List.forall₂_same]
    exact fun line _ => frame_answerLines session.policy session.rules line
  · rw [output_plain plain silent, ← List.flatMap_def]
    apply RawLine.all_encode_lines
    intro text member
    rcases List.mem_flatMap.mp member with ⟨line, -, stands⟩
    exact lineFeed_not_mem_answerLines lacks stands

/-- Line feeds within lines, a control, a verb without its rule's case, and commands left over. -/
theorem run_is_framed_of_broken_lines :
    let rules :=
      RuleTable.builtin.insert "sil" .imperative ⟨"Delete", "item", .positional [.dative]⟩
    let environment := Environment.empty.record ⟨"git", .imperative, []⟩
    let session : Session :=
      { start with
        rules := rules, policy := .strict, scope := .session, environment := environment,
        showsBanner := false }
    let readings : List Reading :=
      [.line "\"a\nb\"" false, .line "\t\n" false, .line "\x1b\nOK" true, .interrupted,
        .line "sil\n\"a\"\n\"b\"" false, .line "exit\n" false, .line "git" false]
    rules.Lacks '\n' ∧ session.styled = false ∧ session.showsBanner = false ∧
      ∃ blocks,
        List.Forall₂ (Frame .strict) ["\"a\nb\"", "\x1b\nOK", "sil\n\"a\"\n\"b\""] blocks ∧
        RawLine.all (session.run .unlimited readings).output =
          blocks.flatten.map fun line => ⟨encode line, true⟩ := by
  intro rules environment session readings
  have lacks : rules.Lacks '\n' := by decide +kernel
  have questions : Reading.questions readings = ["\"a\nb\"", "\x1b\nOK", "sil\n\"a\"\n\"b\""] := by
    decide +kernel
  have framed := run_is_framed.2 session readings lacks rfl rfl
  rw [questions] at framed
  exact ⟨lacks, rfl, rfl, framed⟩

end Session

end Concord
