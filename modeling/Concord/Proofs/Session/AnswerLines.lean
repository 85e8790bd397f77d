import Concord.Proofs.Parsing.Complaints
import Concord.Proofs.Session.LineBlocks

/-!
# The lines of an answer

What a plain session writes in answer to a line is one line or two.  Text of the user is among it:
in the message of a parse error, in the structure of the expression, and where a verb is named.  The
main statement says which of its controls get through: those that a parse error repeats, if the
rules bring none of their own.
-/

namespace Concord

open Parsing (AnnotationPolicy SyntaxFault parseLine parseRest)
open Source (Cursor)
open Text (Plain mem_append_plain_iff mem_plain_append_iff not_mem_append_iff plain_append
  plain_joinWith plain_toString)

/-! ## Plain texts -/

theorem Case.plain_roleName (tag : Case) : Plain tag.roleName := by
  cases tag <;> decide

theorem Case.plain_render (tag : Case) : Plain tag.render := by
  cases tag <;> decide

theorem Mood.plain_roleName (mood : Mood) : Plain mood.roleName := by
  cases mood <;> decide

namespace Expr

variable {hidden : Char → Bool}

theorem plain_braced {form parts : String} (plainForm : Plain form) (plainParts : Plain parts) :
    Plain (braced form parts) := by
  simp only [braced, plain_append]
  exact ⟨⟨⟨plainForm, by decide⟩, plainParts⟩, by decide⟩

mutual

/-- Where all controls count as hidden, the structure of an expression is plain. -/
theorem plain_inspectWith (hides : ∀ c : Char, c.toNat < 0x20 → hidden c = true) :
    ∀ expression : Expr, Plain (inspectWith hidden expression)
  | literal text tag => by
    have quoted := Text.plain_quoteWith hides text
    rw [inspectWith]
    refine plain_braced (by decide) ?_
    simp only [plain_append]
    exact ⟨⟨⟨by decide, quoted⟩, by decide⟩, tag.plain_roleName⟩
  | reference name => by
    have quoted := Text.plain_quoteWith hides name
    rw [inspectWith]
    refine plain_braced (by decide) ?_
    simp only [plain_append]
    exact ⟨by decide, quoted⟩
  | command verb mood arguments => by
    have quoted := Text.plain_quoteWith hides verb
    have parts := plain_joinWith (by decide : Plain ", ") (plain_inspectAllWith hides arguments)
    rw [inspectWith]
    refine plain_braced (by decide) ?_
    simp only [plain_append]
    exact ⟨⟨⟨⟨⟨⟨by decide, quoted⟩, by decide⟩, mood.plain_roleName⟩, by decide⟩, parts⟩, by decide⟩
  | sequence items => by
    have parts := plain_joinWith (by decide : Plain ", ") (plain_inspectAllWith hides items)
    rw [inspectWith]
    refine plain_braced (by decide) ?_
    simp only [plain_append]
    exact ⟨⟨by decide, parts⟩, by decide⟩

theorem plain_inspectAllWith (hides : ∀ c : Char, c.toNat < 0x20 → hidden c = true) :
    ∀ items : List Expr, ∀ text ∈ inspectAllWith hidden items, Plain text
  | [], _, member => by cases member
  | item :: items, text, member => by
    rw [inspectAllWith, List.mem_cons] at member
    rcases member with rfl | others
    · exact plain_inspectWith hides item
    · exact plain_inspectAllWith hides items text others

end

theorem plain_inspect (expression : Expr) : Plain expression.inspect :=
  plain_inspectWith (fun _ => Text.isHidden_of_control) expression

end Expr

/-! ## Messages about commands -/

section Messages

variable {c : Char}

/-- The rule brings the character into no message. -/
def VerbRule.Lacks (c : Char) (rule : VerbRule) : Prop :=
  c ∉ rule.gloss.toList ∧ c ∉ rule.role.toList

/-- None of the rules brings the character into a message. -/
def RuleTable.Lacks (c : Char) (table : RuleTable) : Prop :=
  ∀ entry ∈ table.rules.entries, entry.2.Lacks c

instance (rule : VerbRule) : Decidable (rule.Lacks c) :=
  inferInstanceAs (Decidable (_ ∧ _))

instance (table : RuleTable) : Decidable (table.Lacks c) :=
  inferInstanceAs (Decidable (∀ entry ∈ table.rules.entries, entry.2.Lacks c))

theorem RuleTable.lacks_builtin (control : c.toNat < 0x20) : builtin.Lacks c := by
  have plain : ∀ entry ∈ builtin.rules.entries, Plain entry.2.gloss ∧ Plain entry.2.role := by
    decide +kernel
  intro entry member
  exact ⟨(plain entry member).1.not_mem control, (plain entry member).2.not_mem control⟩

namespace VerbRule

variable {rule : VerbRule} {verb : String} {mood : Mood} {arguments : List Expr}
  {error : SemanticError}

theorem exists_of_agree_eq_error {pairs : List (Case × Expr)}
    (rejected : rule.agree verb mood pairs = .error error) :
    ∃ found, error = rule.mismatch verb mood found := by
  unfold agree at rejected
  split at rejected
  · cases rejected
  · next found _ => exact ⟨found, (Except.error.inj rejected).symm⟩

/-- A command is rejected for the case of an argument or for the number of them. -/
theorem exists_of_check_eq_error (rejected : rule.check verb mood arguments = .error error) :
    (∃ found, error = rule.mismatch verb mood found) ∨
      ∃ expected found, error = .arityMismatch verb rule.gloss expected found := by
  unfold check at rejected
  split at rejected
  · exact .inl (exists_of_agree_eq_error rejected)
  · split at rejected
    · exact .inl (exists_of_agree_eq_error rejected)
    · exact .inr ⟨_, _, (Except.error.inj rejected).symm⟩

/-- What is wrong with a plain verb is said without a control that the rule lacks. -/
theorem not_mem_message (control : c.toNat < 0x20) (plainVerb : Plain verb) (lacks : rule.Lacks c)
    (rejected : rule.check verb mood arguments = .error error) : c ∉ error.message.toList := by
  have verb_ := plainVerb.not_mem control
  have tag (tag : Case) : c ∉ tag.render.toList := tag.plain_render.not_mem control
  have number (number : Nat) : c ∉ (toString number).toList :=
    (plain_toString number).not_mem control
  have quote : Plain "'" := by decide
  have opening : Plain "' (" := by decide
  have asks : Plain ") expects " := by decide
  have space : Plain " " := by decide
  have turn : Plain ", found " := by decide
  have counted : Plain " argument(s), found " := by decide
  rcases exists_of_check_eq_error rejected with ⟨found, rfl⟩ | ⟨expected, found, rfl⟩
  · simp only [mismatch, SemanticError.message, not_mem_append_iff]
    exact ⟨⟨⟨⟨⟨⟨⟨⟨⟨quote.not_mem control, verb_⟩, opening.not_mem control⟩, lacks.1⟩,
      asks.not_mem control⟩, tag _⟩, space.not_mem control⟩, lacks.2⟩, turn.not_mem control⟩, tag _⟩
  · simp only [SemanticError.message, not_mem_append_iff]
    exact ⟨⟨⟨⟨⟨⟨⟨quote.not_mem control, verb_⟩, opening.not_mem control⟩, lacks.1⟩,
      asks.not_mem control⟩, number _⟩, counted.not_mem control⟩, number _⟩

end VerbRule

/-- A rejected command meets a rule of the table. -/
theorem RuleTable.not_mem_message {table : RuleTable} {verb : String} {mood : Mood}
    {arguments : List Expr} {error : SemanticError} (control : c.toNat < 0x20)
    (plainVerb : Plain verb) (lacks : table.Lacks c)
    (rejected : table.validate verb mood arguments = .error error) : c ∉ error.message.toList := by
  unfold validate at rejected
  split at rejected
  · cases rejected
  · next rule found =>
    have member := Dictionary.mem_entries_of_get? found
    exact VerbRule.not_mem_message control plainVerb (lacks _ member) rejected

end Messages

/-! ## Lines -/

/-- The verdict on an expression that a line can say, without style and without its line end. -/
def plainVerdict (rules : RuleTable) : Expr → String
  | .command verb mood arguments =>
    match rules.validate verb mood arguments with
    | .ok () => "OK"
    | .error error => "RUNTIME ERROR: " ++ (Error.ofKind (.semantic error)).message
  | _ => "OK"

/-- The lines of a plain answer, without their line ends. -/
def answerLines (policy : AnnotationPolicy) (rules : RuleTable) (line : String) : List String :=
  match parseLine policy line with
  | .error error => ["Parse Error: " ++ error.message]
  | .ok expression => ["AST: " ++ expression.inspect, plainVerdict rules expression]

theorem expressionVerdict_plain (rules : RuleTable) (expression : Expr) :
    expressionVerdict rules false expression = plainVerdict rules expression ++ "\n" := by
  cases expression with
  | command verb mood arguments =>
    cases checked : rules.validate verb mood arguments with
    | ok => simp [expressionVerdict, plainVerdict, checked]
    | error error =>
      simp [expressionVerdict, plainVerdict, checked, colouredIf, String.append_assoc]
  | _ => rfl

theorem lineBlock_plain (policy : AnnotationPolicy) (rules : RuleTable) (line : String) :
    lineBlock policy rules false line =
      String.join ((answerLines policy rules line).map (· ++ "\n")) := by
  cases read : parseLine policy line with
  | error error =>
    simp [lineBlock, answerLines, read, String.join, colouredIf, String.append_assoc]
  | ok expression =>
    simp [lineBlock, answerLines, read, String.join, expressionVerdict_plain, String.append_assoc]

/-- The characters of a line that the answer to it repeats as they are. -/
def reported (policy : AnnotationPolicy) (line : String) : List Char :=
  match (parseRest policy (Cursor.ofText line)).result with
  | .error error => error.fault.repeated
  | .ok _ => []

/-- What is repeated stands in the line, and it is no line feed. -/
theorem mem_of_mem_reported {policy : AnnotationPolicy} {line : String} {c : Char}
    (member : c ∈ reported policy line) : c ∈ line.toList ∧ c ≠ '\n' := by
  unfold reported at member
  split at member
  · next error failed =>
    have grounded := Parsing.grounded_of_parseRest_error failed
    exact grounded.mem_of_mem_repeated member
  · cases member

section Controls

variable {policy : AnnotationPolicy} {rules : RuleTable} {c : Char}

theorem not_mem_plainVerdict (control : c.toNat < 0x20) (lacks : rules.Lacks c) {expression : Expr}
    (wellFormed : expression.WellFormed) : c ∉ (plainVerdict rules expression).toList := by
  have accepted : Plain "OK" := by decide
  have rejected : Plain "RUNTIME ERROR: " := by decide
  have semantic : Plain "semantic error: " := by decide
  cases expression with
  | command verb mood arguments =>
    cases checked : rules.validate verb mood arguments with
    | ok =>
      simp only [plainVerdict, checked]
      exact accepted.not_mem control
    | error error =>
      have verb_ := Text.plain_of_letters wellFormed.2.1
      have message := RuleTable.not_mem_message control verb_ lacks checked
      simp only [plainVerdict, checked]
      rw [mem_plain_append_iff rejected control]
      exact (mem_plain_append_iff semantic control).not.mpr message
  | _ => exact accepted.not_mem control

/-- The controls in a parse error are those of the characters that its message repeats. -/
theorem mem_parse_message_iff (control : c.toNat < 0x20) {message source : String}
    {row column : Nat} :
    c ∈ (Error.ofKind (.parse message row column source)).message.toList ↔ c ∈ message.toList := by
  have row_ : Plain " at line " := by decide
  have column_ : Plain ", column " := by decide
  change c ∈ (message ++ " at line " ++ toString row ++ ", column " ++ toString column).toList ↔ _
  rw [mem_append_plain_iff (plain_toString _) control, mem_append_plain_iff column_ control,
    mem_append_plain_iff (plain_toString _) control, mem_append_plain_iff row_ control]

/-- The controls in a plain answer are those of the characters that it repeats. -/
theorem exists_mem_answerLines_iff (control : c.toNat < 0x20) (lacks : rules.Lacks c)
    (line : String) :
    (∃ text ∈ answerLines policy rules line, c ∈ text.toList) ↔ c ∈ reported policy line := by
  have parseError : Plain "Parse Error: " := by decide
  have tree : Plain "AST: " := by decide
  cases failed : (parseRest policy (Cursor.ofText line)).result with
  | error error =>
    have read := Parsing.parseLine_of_parseRest_error failed
    simp only [answerLines, read, reported, failed, List.mem_singleton, exists_eq_left]
    rw [mem_plain_append_iff parseError control, Parsing.SyntaxError.toError,
      mem_parse_message_iff control, error.fault.mem_message_iff control]
  | ok expression =>
    have read := Parsing.parseLine_eq_ok_iff_parseRest.mpr failed
    have wellFormed := Expr.wellFormed_of_spelling (Parsing.lineSpelling_of_parseLine read)
    have verdict := not_mem_plainVerdict control lacks wellFormed
    have shown : c ∉ ("AST: " ++ expression.inspect).toList :=
      (mem_plain_append_iff tree control).not.mpr (expression.plain_inspect.not_mem control)
    simp only [answerLines, read, reported, failed, List.mem_cons, List.not_mem_nil, or_false,
      exists_eq_or_imp, exists_eq_left, shown, verdict]

/-- The lines of a plain answer are lines: nothing that is repeated breaks them. -/
theorem lineFeed_not_mem_answerLines (lacks : rules.Lacks '\n') {line text : String}
    (member : text ∈ answerLines policy rules line) : '\n' ∉ text.toList := by
  intro broken
  have repeated := (exists_mem_answerLines_iff (by decide) lacks line).mp ⟨text, member, broken⟩
  exact (mem_of_mem_reported repeated).2 rfl

end Controls

end Concord
