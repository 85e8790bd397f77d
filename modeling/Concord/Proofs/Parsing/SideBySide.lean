import Concord.Proofs.Parsing.Policies
import Concord.Proofs.Source.Likeness

/-!
# Parsers side by side

Where two cursors stand at corresponding places before texts that are alike, a parser does the same
at both.  It reads expressions with the same strings, cases and moods, or it fails in the same way
at corresponding places; and it leaves cursors that are alike again.  Names that stand for each
other have to be resolved alike, and come up again in what is read or reported.
-/

namespace Concord.Parsing

open Source (Cursor Likeness Position TokenKind)
open Text (isBlank trim)
open Unicode (isAlphabetic)

/-! ## What is alike -/

/-- Two faults that differ at most in the names they are about. -/
inductive SyntaxFault.Like (likeness : Likeness) : SyntaxFault → SyntaxFault → Prop
  | same : Like likeness fault fault
  | unexpected (kinds : likeness.Kinds found other) :
    Like likeness (.unexpected expected found) (.unexpected expected other)
  | unknownName (names : likeness.Names name other) :
    Like likeness (.unknownName category name) (.unknownName category other)

/-- Two faults that are alike, at corresponding places. -/
structure SyntaxError.Like (likeness : Likeness) (error other : SyntaxError) : Prop where
  fault : error.fault.Like likeness other.fault
  placed : likeness.placed error.position other.position

structure Fallback.Like (likeness : Likeness) (fallback other : Fallback) : Prop where
  category : fallback.category = other.category
  names : likeness.Names fallback.name other.name

/-- Two lines that differ at most in their verbs. -/
inductive ExprLike (likeness : Likeness) : Expr → Expr → Prop
  | literal : ExprLike likeness (.literal text tag) (.literal text tag)
  | command (names : likeness.Names verb other) :
    ExprLike likeness (.command verb mood arguments) (.command other mood arguments)

/-- Two results that are related, or two errors that are alike. -/
inductive ResultsLike (likeness : Likeness) (related : tag → tag → Prop) :
    Except SyntaxError tag → Except SyntaxError tag → Prop
  | ok (values : related value other) : ResultsLike likeness related (.ok value) (.ok other)
  | error (errors : error.Like likeness other) :
    ResultsLike likeness related (.error error) (.error other)

/-- Two readings with results that are alike, which leave cursors that are alike. -/
structure Parsed.Like (likeness : Likeness) (related : tag → tag → Prop)
    (parsed other : Parsed tag) : Prop where
  result : ResultsLike likeness related parsed.result other.result
  rest : likeness.Cursors parsed.rest other.rest
  fallbacks : List.Forall₂ (Fallback.Like likeness) parsed.fallbacks other.fallbacks

/-- Names that stand for each other are names of the same. -/
def Vocabulary.Respects (vocabulary : Vocabulary tag) (likeness : Likeness) : Prop :=
  ∀ name other, likeness.Names name other → vocabulary.resolve name = vocabulary.resolve other

/-- Names that stand for each other are resolved alike, as cases and as moods. -/
structure KeepsNames (likeness : Likeness) : Prop where
  cases : cases.Respects likeness
  moods : moods.Respects likeness

variable {likeness : Likeness}

/-! ## Names -/

theorem names_trim {name other : String} (names : likeness.Names name other) :
    likeness.Names (trim name) (trim other) := by
  have visible : likeness.Respects isBlank :=
    Likeness.respects_of_letters fun _ => Text.isBlank_eq_false_of_isAlphabetic
  rw [Likeness.Names, trim, trim, String.toList_ofList, String.toList_ofList]
  exact List.rel_reverse (Likeness.forall₂_dropWhile visible
    (List.rel_reverse (Likeness.forall₂_dropWhile visible names)))

theorem eq_empty_iff_of_names {name other : String} (names : likeness.Names name other) :
    name = "" ↔ other = "" := by
  have length := names.length_eq
  rw [← String.toList_eq_nil_iff, ← String.toList_eq_nil_iff, ← List.length_eq_zero_iff,
    ← List.length_eq_zero_iff, length]

theorem closingKind_ne_identifier (category : Category) (name : String) :
    category.closingKind ≠ .identifier name := by
  cases category <;> simp [Category.closingKind]

theorem SyntaxFault.like_ofName {category : Category} {name other : String}
    (names : likeness.Names name other) :
    (ofName category name).Like likeness (ofName category other) := by
  unfold ofName
  simp only [eq_empty_iff_of_names names]
  split
  · exact .same
  · exact .unknownName names

theorem SyntaxFault.like_ofToken {kind other : TokenKind} (expected : Expectation)
    (kinds : likeness.Kinds kind other) :
    (ofToken expected kind).Like likeness (ofToken expected other) := by
  cases kinds with
  | same => exact .same
  | identifier names => exact .unexpected (.identifier names)

theorem SyntaxError.like_ofToken {cursor other : Cursor} (expected : Expectation)
    (cursors : likeness.Cursors cursor other) :
    (ofToken expected cursor.peek).Like likeness (ofToken expected other.peek) := by
  rcases cursors.nextToken with ⟨kinds, placed, -⟩
  exact ⟨SyntaxFault.like_ofToken expected kinds, placed⟩

/-! ## Readings put together -/

namespace Parsed

variable {cursor other : Cursor}

theorem like_done {related : tag → tag → Prop} {value another : tag}
    (values : related value another) (cursors : likeness.Cursors cursor other) :
    (done value cursor).Like likeness related (done another other) :=
  ⟨.ok values, cursors, .nil⟩

theorem like_failed {related : tag → tag → Prop} {error another : SyntaxError}
    (errors : error.Like likeness another) (cursors : likeness.Cursors cursor other) :
    (failed error cursor : Parsed tag).Like likeness related (failed another other) :=
  ⟨.error errors, cursors, .nil⟩

theorem Like.andThen {related : first → first → Prop} {relatedNext : second → second → Prop}
    {parsed another : Parsed first} {next otherNext : first → Cursor → Parsed second}
    (like : parsed.Like likeness related another)
    (others : ∀ value same, related value same →
      (next value parsed.rest).Like likeness relatedNext (otherNext same another.rest)) :
    (parsed.andThen next).Like likeness relatedNext (another.andThen otherNext) := by
  rcases parsed with ⟨result, rest, fallbacks⟩
  rcases another with ⟨otherResult, otherRest, otherFallbacks⟩
  rcases like with ⟨results, cursors, taken⟩
  cases results with
  | ok values =>
    have behind := others _ _ values
    exact ⟨behind.result, behind.rest, List.rel_append taken behind.fallbacks⟩
  | error errors => exact ⟨.error errors, cursors, taken⟩

theorem Like.map {related : first → first → Prop} {relatedChanged : second → second → Prop}
    {parsed another : Parsed first} {change otherChange : first → second}
    (like : parsed.Like likeness related another)
    (changed : ∀ value same, related value same →
      relatedChanged (change value) (otherChange same)) :
    (parsed.map change).Like likeness relatedChanged (another.map otherChange) := by
  rcases parsed with ⟨result, rest, fallbacks⟩
  rcases another with ⟨otherResult, otherRest, otherFallbacks⟩
  rcases like with ⟨results, cursors, taken⟩
  cases results with
  | ok values => exact ⟨.ok (changed _ _ values), cursors, taken⟩
  | error errors => exact ⟨.error errors, cursors, taken⟩

end Parsed

/-! ## Readers -/

section Readers

variable {policy : AnnotationPolicy} {cursor other : Cursor}

theorem resolveName_like {vocabulary : Vocabulary tag} (respects : vocabulary.Respects likeness)
    {name another : String} {place otherPlace : Position} (names : likeness.Names name another)
    (placed : likeness.placed place otherPlace) (cursors : likeness.Cursors cursor other) :
    (resolveName vocabulary policy name place cursor).Like likeness Eq
      (resolveName vocabulary policy another otherPlace other) := by
  unfold resolveName
  rw [respects name another names]
  split
  · exact Parsed.like_done rfl cursors
  · split
    · exact ⟨.ok rfl, cursors, .cons ⟨rfl, names⟩ .nil⟩
    · exact Parsed.like_failed ⟨SyntaxFault.like_ofName names, placed⟩ cursors

theorem parseDelimited_like {vocabulary : Vocabulary tag} (respects : vocabulary.Respects likeness)
    (cursors : likeness.Cursors cursor other) :
    (parseDelimited vocabulary policy cursor).Like likeness Eq
      (parseDelimited vocabulary policy other) := by
  have delimiter : isAlphabetic vocabulary.category.closing = false := by
    cases vocabulary.category <;> decide +kernel
  rcases cursors.annotationText delimiter with ⟨names, placed, behind⟩
  rcases behind.nextToken with ⟨kinds, -, behindClosing⟩
  have closed := kinds.eq_iff (closingKind_ne_identifier vocabulary.category)
  simp only [parseDelimited, closed]
  split
  · exact resolveName_like respects (names_trim names) placed behindClosing
  · exact Parsed.like_failed (SyntaxError.like_ofToken _ behind) behind

theorem parseTag_like {vocabulary : Vocabulary tag} (respects : vocabulary.Respects likeness)
    (cursors : likeness.Cursors cursor other) :
    (parseTag vocabulary policy cursor).Like likeness Eq (parseTag vocabulary policy other) := by
  rcases cursors.nextToken with ⟨kinds, -, behind⟩
  have opened := kinds.eq_iff (openingKind_ne_identifier vocabulary.category)
  simp only [parseTag, opened]
  split
  · exact parseDelimited_like respects behind
  · exact Parsed.like_done rfl cursors

theorem parseArguments_like (keeps : KeepsNames likeness)
    (cursors : likeness.Cursors cursor other) :
    (parseArguments policy cursor).Like likeness Eq (parseArguments policy other) := by
  induction cursor using strings_induction policy generalizing other with
  | string cursor text kind inductionHypothesis =>
    rcases cursors.nextToken with ⟨kinds, -, behind⟩
    have otherKind := (kinds.eq_iff fun name => TokenKind.noConfusion).mp kind
    have tag : (parseTag cases policy cursor.nextToken.2).Like likeness Eq _ :=
      parseTag_like keeps.cases behind
    rw [parseArguments_quoted kind, parseArguments_quoted otherKind]
    refine tag.andThen fun found same equal => ?_
    subst equal
    exact (inductionHypothesis tag.rest).map fun _ _ => congrArg _
  | other cursor unquoted =>
    rcases cursors.nextToken with ⟨kinds, -, -⟩
    have otherUnquoted : ∀ text, other.peek.kind ≠ .quoted text := fun text quoted =>
      unquoted text ((kinds.eq_iff fun name => TokenKind.noConfusion).mpr quoted)
    rw [parseArguments_other unquoted, parseArguments_other otherUnquoted]
    exact Parsed.like_done rfl cursors

/-- Commands with verbs that stand for each other are alike. -/
theorem parseCommand_like (keeps : KeepsNames likeness) {verb another : String}
    (names : likeness.Names verb another) (cursors : likeness.Cursors cursor other) :
    ((parseTag moods policy cursor).andThen fun mood rest =>
        (parseArguments policy rest).map (.command verb mood)).Like likeness (ExprLike likeness)
      ((parseTag moods policy other).andThen fun mood rest =>
        (parseArguments policy rest).map (.command another mood)) := by
  have tag : (parseTag moods policy cursor).Like likeness Eq _ :=
    parseTag_like keeps.moods cursors
  refine tag.andThen fun mood same equal => ?_
  subst equal
  refine (parseArguments_like keeps tag.rest).map fun arguments same equal => ?_
  subst equal
  exact .command names

theorem parseExpression_like (keeps : KeepsNames likeness)
    (cursors : likeness.Cursors cursor other) :
    (parseExpression policy cursor).Like likeness (ExprLike likeness)
      (parseExpression policy other) := by
  rcases cursors.nextToken with ⟨kinds, -, behind⟩
  have failed := SyntaxError.like_ofToken .expression cursors
  unfold parseExpression
  generalize cursor.peek.kind = kind at kinds
  generalize other.peek.kind = otherKind at kinds
  cases kinds with
  | identifier names => exact parseCommand_like keeps names behind
  | same =>
    split
    · exact parseCommand_like keeps (Likeness.forall₂_refl _ _) behind
    · have tag : (parseTag cases policy cursor.nextToken.2).Like likeness Eq _ :=
        parseTag_like keeps.cases behind
      refine tag.map fun found same equal => ?_
      subst equal
      exact .literal
    · exact Parsed.like_failed failed cursors

theorem parseAtEnd_like {expression another : Expr}
    (expressions : ExprLike likeness expression another)
    (cursors : likeness.Cursors cursor other) :
    (parseAtEnd expression cursor).Like likeness (ExprLike likeness)
      (parseAtEnd another other) := by
  rcases cursors.nextToken with ⟨kinds, -, -⟩
  have ended : cursor.peek.kind = .endOfInput ↔ other.peek.kind = .endOfInput :=
    kinds.eq_iff fun name => TokenKind.noConfusion
  have command : expression.isCommand = another.isCommand := by
    cases expressions <;> rfl
  simp only [parseAtEnd, ended, command]
  split
  · exact Parsed.like_done expressions cursors
  · exact Parsed.like_failed (SyntaxError.like_ofToken _ cursors) cursors

/-- A parser does the same before texts that are alike. -/
theorem parseRest_like (keeps : KeepsNames likeness) (policy : AnnotationPolicy)
    (cursors : likeness.Cursors cursor other) :
    (parseRest policy cursor).Like likeness (ExprLike likeness) (parseRest policy other) := by
  have expression : (parseExpression policy cursor).Like likeness _ _ :=
    parseExpression_like keeps cursors
  exact expression.andThen fun _ _ expressions => parseAtEnd_like expressions expression.rest

end Readers

end Concord.Parsing
