import Concord.Expr.Render
import Concord.Proofs.Grammar.Names
import Concord.Proofs.Parsing.Recognition

/-!
# Writing and reading expressions

An expression written out is read back as itself exactly if it is one that a line can say: a string
without quotes in it, or a verb of letters with such strings.  Nothing else is ever read, so that
writing out what was read and reading it again changes nothing, whatever the policies.
-/

namespace Concord

open Parsing
open Text (Blanks joinWith trim)
open Unicode (isAlphabetic)

namespace Expr

/-- A string that can stand between quotes. -/
def Quotable : Expr → Prop
  | literal text _ => '"' ∉ text.toList
  | _ => False

/-- An expression that a line can say. -/
def WellFormed : Expr → Prop
  | command verb _ arguments =>
    verb ≠ "" ∧ (∀ c ∈ verb.toList, isAlphabetic c = true) ∧
      ∀ argument ∈ arguments, argument.Quotable
  | expression => expression.Quotable

/-! ## What is read can be said -/

theorem quotable_of_spelling {policy : AnnotationPolicy} {characters : List Char}
    {expression : Expr} (spelling : LiteralSpelling policy characters expression) :
    expression.Quotable := by
  cases spelling with
  | quoted unquoted _ => simpa [Quotable] using unquoted

theorem quotable_of_mem_spelling {policy : AnnotationPolicy} {characters : List Char}
    {arguments : List Expr} (spelling : ArgumentsSpelling policy characters arguments) :
    ∀ argument ∈ arguments, argument.Quotable := by
  induction spelling with
  | none => simp
  | next _ literal _ inductionHypothesis =>
    exact List.forall_mem_cons.mpr ⟨quotable_of_spelling literal, inductionHypothesis⟩

theorem wellFormed_of_spelling {policy : AnnotationPolicy} {characters : List Char}
    {expression : Expr} (spelling : LineSpelling policy characters expression) :
    expression.WellFormed := by
  cases spelling with
  | line _ spelling _ =>
    cases spelling with
    | literal literal =>
      have quotable := quotable_of_spelling literal
      cases literal
      exact quotable
    | command nonempty letters _ others =>
      refine ⟨?_, by simpa using letters, quotable_of_mem_spelling others⟩
      intro empty
      exact nonempty (by simpa using congrArg String.toList empty)

/-! ## What can be said is spelled by its written form -/

/-- A name that resolves to what is meant, between its delimiters and behind a blank. -/
theorem annotationSpelling_of_name (vocabulary : Vocabulary tag) {policy : AnnotationPolicy}
    {name : String} {found : tag}
    (inside : name.toList.all (fun c => Source.Inside vocabulary.category.closing c) = true)
    (resolved : vocabulary.resolve (trim name) = some found) :
    AnnotationSpelling vocabulary policy
      (' ' :: vocabulary.category.opening :: (name.toList ++ [vocabulary.category.closing]))
      found := by
  have blank : Blanks [' '] := by
    simpa using (by decide : Text.isBlank ' ' = true)
  have denotes : Denotes vocabulary policy name.toList found :=
    .known (by simpa using resolved)
  have inside : ∀ c ∈ name.toList, Source.Inside vocabulary.category.closing c := by
    simpa using inside
  simpa using AnnotationSpelling.present blank inside .absent denotes

theorem annotationSpelling_case {policy : AnnotationPolicy} (tag : Case) :
    AnnotationSpelling cases policy (' ' :: '[' :: (tag.nativeName.toList ++ [']'])) tag := by
  refine annotationSpelling_of_name cases ?_ ?_
  · cases tag <;> decide
  · have trimmed : trim tag.nativeName = tag.nativeName := by
      cases tag <;> decide
    rw [trimmed]
    exact Case.ofName?_of_mem_names (by simp [Case.names])

theorem annotationSpelling_mood {policy : AnnotationPolicy} (mood : Mood) :
    AnnotationSpelling moods policy (' ' :: '<' :: (mood.nativeName.toList ++ ['>'])) mood := by
  refine annotationSpelling_of_name moods ?_ ?_
  · cases mood <;> decide
  · have trimmed : trim mood.nativeName = mood.nativeName := by
      cases mood <;> decide
    rw [trimmed]
    exact Mood.ofName?_of_mem_names (by simp [Mood.names])

theorem literalSpelling_render {policy : AnnotationPolicy} {expression : Expr}
    (quotable : expression.Quotable) :
    LiteralSpelling policy expression.render.toList expression := by
  cases expression with
  | literal text tag =>
    have unquoted : '"' ∉ text.toList := quotable
    simpa [render] using LiteralSpelling.quoted unquoted (annotationSpelling_case tag)
  | _ => exact quotable.elim

theorem argumentsSpelling_render {policy : AnnotationPolicy} {arguments : List Expr}
    (quotable : ∀ argument ∈ arguments, argument.Quotable) :
    ArgumentsSpelling policy (arguments.flatMap fun argument => ' ' :: argument.render.toList)
      arguments := by
  induction arguments with
  | nil => exact .none
  | cons argument others inductionHypothesis =>
    rcases List.forall_mem_cons.mp quotable with ⟨first, rest⟩
    have blank : Blanks [' '] := by
      simpa using (by decide : Text.isBlank ' ' = true)
    simpa using ArgumentsSpelling.next blank (literalSpelling_render first)
      (inductionHypothesis rest)

theorem toList_joinWith (separator first : String) (others : List String) :
    (joinWith separator (first :: others)).toList =
      first.toList ++ others.flatMap fun other => separator.toList ++ other.toList := by
  induction others generalizing first with
  | nil => simp [joinWith]
  | cons next others inductionHypothesis => simp [joinWith, inductionHypothesis]

theorem lineSpelling_render {policy : AnnotationPolicy} {expression : Expr}
    (wellFormed : expression.WellFormed) :
    LineSpelling policy expression.render.toList expression := by
  have spelling : ExpressionSpelling policy expression.render.toList expression := by
    cases expression with
    | literal text tag => exact .literal (literalSpelling_render wellFormed)
    | command verb mood arguments =>
      rcases wellFormed with ⟨nonempty, letters, quotable⟩
      have nonempty : verb.toList ≠ [] := by simpa using nonempty
      have others : ArgumentsSpelling policy _ arguments := argumentsSpelling_render quotable
      simpa [render, toList_joinWith, renderAll_eq_map, List.flatMap_map] using
        ExpressionSpelling.command nonempty letters (annotationSpelling_mood mood) others
    | _ => exact wellFormed.elim
  simpa using LineSpelling.line Text.blanks_nil spelling Text.blanks_nil

/--
Writing out and reading are inverse to each other exactly on what a line can say, under either
policy, and a line says nothing else.
-/
theorem parseLine_render (policy : AnnotationPolicy) :
    (∀ expression : Expr,
      parseLine policy expression.render = .ok expression ↔ expression.WellFormed) ∧
    (∀ (source : String) (expression : Expr), parseLine policy source = .ok expression →
      expression.WellFormed ∧ ∀ other, parseLine other expression.render = .ok expression) := by
  refine ⟨fun expression => ⟨fun read => ?_, fun wellFormed => ?_⟩,
    fun source expression read => ?_⟩
  · exact wellFormed_of_spelling (lineSpelling_of_parseLine read)
  · exact parseLine_of_lineSpelling (lineSpelling_render wellFormed)
  · have wellFormed := wellFormed_of_spelling (lineSpelling_of_parseLine read)
    exact ⟨wellFormed, fun other => parseLine_of_lineSpelling (lineSpelling_render wellFormed)⟩

end Expr

end Concord
