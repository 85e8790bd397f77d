import Concord.Proofs.Parsing.RoundTrip
import Concord.Proofs.Text.Delimited
import Concord.Session.Outcome

/-!
# The structure of expressions can be read back

The rendering of an expression that shows its structure ends by itself.  The forms of expressions
begin with different letters, the texts in them end with a quote that is no part of them, and the
names of cases and moods differ.  So nothing that a user writes into a text can make it look like
another expression, whichever characters count as hidden.
-/

namespace Concord

open Text (Delimits delimits_quoteWith joinWith quoteWith)

theorem Case.delimits_roleName (tag : Case) :
    Delimits (fun tag : Case => tag.roleName.toList) tag := by
  intro second rest others equal
  cases tag <;> cases second <;> simp_all [Case.roleName]

theorem Mood.delimits_roleName (mood : Mood) :
    Delimits (fun mood : Mood => mood.roleName.toList) mood := by
  intro second rest others equal
  cases mood <;> cases second <;> simp_all [Mood.roleName]

/-! ## Lists between separators -/

section Joined

variable {value : Type} {write : value → String} {separator : String} {items : List value}

/-- Joined texts end by themselves at a character with which neither they nor separators begin. -/
theorem delimits_joinWith {stop : Char}
    (each : ∀ item ∈ items, Delimits (fun item => (write item).toList) item)
    (nonempty : ∀ item, (write item).toList ≠ [])
    (stops : ∀ item, stop ∉ (write item).toList.head?)
    (separates : separator.toList ≠ [])
    (separatorStops : stop ∉ separator.toList.head?) :
    Delimits (fun items => (joinWith separator (items.map write)).toList ++ [stop]) items := by
  have apart : ∀ item rest others, stop :: rest ≠ (write item).toList ++ others := by
    intro item rest others equal
    apply stops item
    simpa [List.head?_append_of_ne_nil _ (nonempty item)] using congrArg List.head? equal.symm
  intro second rest others equal
  cases items with
  | nil =>
    cases second with
    | nil => exact ⟨rfl, by simpa [joinWith] using equal⟩
    | cons item second =>
      simp only [List.map_cons, Expr.toList_joinWith, List.append_assoc] at equal
      exact absurd equal (apart item _ _)
  | cons item items =>
    rcases List.forall_mem_cons.mp each with ⟨first, later⟩
    cases second with
    | nil =>
      simp only [List.map_cons, Expr.toList_joinWith, List.append_assoc] at equal
      exact absurd equal.symm (apart item _ _)
    | cons other second =>
      simp only [List.map_cons, Expr.toList_joinWith, List.append_assoc, List.flatMap_map] at equal
      rcases first other _ _ equal with ⟨rfl, behind⟩
      have tail : Delimits (fun items => (items.flatMap fun item =>
          separator.toList ++ (write item).toList) ++ [stop]) items := by
        apply Delimits.flatMap_append
        · intro item member
          exact (later item member).append_left separator.toList
        · intro item
          simp [separates]
        · intro item
          rwa [List.head?_append_of_ne_nil _ separates]
      rcases tail second rest others (by simpa using behind) with ⟨rfl, same⟩
      exact ⟨rfl, same⟩

/-- Joined texts that end by themselves can be read back one by one, whatever separates them. -/
theorem joinWith_map_injective
    (each : ∀ item, Delimits (fun item => (write item).toList) item)
    (nonempty : ∀ item, (write item).toList ≠ []) :
    Function.Injective fun items : List value => joinWith separator (items.map write) := by
  intro items others equal
  have equal := congrArg String.toList equal
  cases items with
  | nil =>
    cases others with
    | nil => rfl
    | cons other others => simp [Expr.toList_joinWith, joinWith, nonempty] at equal
  | cons item items =>
    cases others with
    | nil => simp [Expr.toList_joinWith, joinWith, nonempty] at equal
    | cons other others =>
      simp only [List.map_cons, Expr.toList_joinWith, List.flatMap_map] at equal
      rcases each item other _ _ equal with ⟨rfl, behind⟩
      have tail := Text.flatMap_injective
        (fun item => (each item).append_left separator.toList) (by simp [nonempty]) behind
      rw [tail]

end Joined

namespace Expr

/-- The letter with which the structure of an expression begins. -/
def initial : Expr → Char
  | literal .. => 'L'
  | reference _ => 'V'
  | command .. => 'C'
  | sequence _ => 'S'

theorem head?_inspectWith (hidden : Char → Bool) (expression : Expr) :
    (expression.inspectWith hidden).toList.head? = some expression.initial := by
  cases expression <;> simp [inspectWith, braced, initial]

theorem inspectWith_ne_nil (hidden : Char → Bool) (expression : Expr) :
    (expression.inspectWith hidden).toList ≠ [] := by
  intro empty
  simpa [empty] using expression.head?_inspectWith hidden

theorem initial_eq_of_append {hidden : Char → Bool} {first second : Expr} {rest others : List Char}
    (equal : (first.inspectWith hidden).toList ++ rest =
      (second.inspectWith hidden).toList ++ others) :
    first.initial = second.initial := by
  have heads := congrArg List.head? equal
  rw [List.head?_append_of_ne_nil _ (first.inspectWith_ne_nil hidden),
    List.head?_append_of_ne_nil _ (second.inspectWith_ne_nil hidden),
    head?_inspectWith, head?_inspectWith] at heads
  exact Option.some.inj heads

section Structure

variable (hidden : Char → Bool)

theorem delimits_items {items : List Expr}
    (each : ∀ item ∈ items, Delimits (fun item : Expr => (item.inspectWith hidden).toList) item) :
    Delimits (fun items => (joinWith ", " (inspectAllWith hidden items)).toList ++ [']']) items := by
  simp only [inspectAllWith_eq_map]
  apply delimits_joinWith each (inspectWith_ne_nil hidden)
  · intro item
    rw [head?_inspectWith]
    cases item <;> simp [initial]
  · simp
  · simp

mutual

theorem delimits_inspectWith :
    ∀ expression : Expr,
      Delimits (fun expression : Expr => (expression.inspectWith hidden).toList) expression
  | literal text tag => by
    have parts := ((delimits_quoteWith hidden text).pair ", case: ".toList
      tag.delimits_roleName).append_right " \x7d".toList
    intro second rest others equal
    have initials := initial_eq_of_append equal
    cases second with
    | literal otherText otherTag =>
      rcases parts (otherText, otherTag) rest others (by simpa [inspectWith, braced] using equal)
        with ⟨same, behind⟩
      cases same
      exact ⟨rfl, behind⟩
    | _ => simp [initial] at initials
  | reference name => by
    have parts := (delimits_quoteWith hidden name).append_right " \x7d".toList
    intro second rest others equal
    have initials := initial_eq_of_append equal
    cases second with
    | reference otherName =>
      rcases parts otherName rest others (by simpa [inspectWith, braced] using equal)
        with ⟨rfl, behind⟩
      exact ⟨rfl, behind⟩
    | _ => simp [initial] at initials
  | command verb mood arguments => by
    have arguments' := delimits_items hidden (delimits_inspectAllWith arguments)
    have parts := ((delimits_quoteWith hidden verb).pair ", mood: ".toList
      (mood.delimits_roleName.pair ", args: [".toList arguments')).append_right " \x7d".toList
    intro second rest others equal
    have initials := initial_eq_of_append equal
    cases second with
    | command otherVerb otherMood otherArguments =>
      rcases parts (otherVerb, otherMood, otherArguments) rest others
        (by simpa [inspectWith, braced] using equal) with ⟨same, behind⟩
      cases same
      exact ⟨rfl, behind⟩
    | _ => simp [initial] at initials
  | sequence items => by
    have parts := (delimits_items hidden (delimits_inspectAllWith items)).append_right
      " \x7d".toList
    intro second rest others equal
    have initials := initial_eq_of_append equal
    cases second with
    | sequence otherItems =>
      rcases parts otherItems rest others (by simpa [inspectWith, braced] using equal)
        with ⟨rfl, behind⟩
      exact ⟨rfl, behind⟩
    | _ => simp [initial] at initials

theorem delimits_inspectAllWith :
    ∀ (items : List Expr), ∀ item ∈ items,
      Delimits (fun expression : Expr => (expression.inspectWith hidden).toList) item
  | [] => by simp
  | item :: items =>
    List.forall_mem_cons.mpr ⟨delimits_inspectWith item, delimits_inspectAllWith items⟩

end

end Structure

/--
The structure of an expression says which one it is, and no structure is the beginning of another
one.  So the structures of several expressions can be read back one by one, whatever separates them,
and the answer to a line shows which expression has been evaluated.
-/
theorem inspectWith_uniquely_decodable (hidden : Char → Bool) :
    (∀ first second : Expr,
      first.inspectWith hidden = second.inspectWith hidden ↔ first = second) ∧
    (∀ first second : Expr,
      (first.inspectWith hidden).toList <+: (second.inspectWith hidden).toList ↔
        first = second) ∧
    (∀ (first second : Expr) (rest others : List Char),
      (first.inspectWith hidden).toList ++ rest = (second.inspectWith hidden).toList ++ others ↔
        first = second ∧ rest = others) ∧
    (∀ (separator : String) (items others : List Expr),
      joinWith separator (items.map (inspectWith hidden)) =
          joinWith separator (others.map (inspectWith hidden)) ↔
        items = others) ∧
    ∀ (styled : Bool) (first second : Expr) (value other : Value) (trace others : List Execution),
      (Outcome.evaluated first value trace).block? styled =
          (Outcome.evaluated second other others).block? styled →
        first = second := by
  have reads := delimits_inspectWith hidden
  refine ⟨fun first second => ⟨fun equal => ?_, congrArg _⟩, fun first second => ⟨?_, ?_⟩,
    fun first second rest others => ⟨reads first second rest others, ?_⟩,
    fun separator items others => ⟨fun equal => ?_, fun same => by rw [same]⟩, ?_⟩
  · exact (reads first second [] [] (by simp [equal])).1
  · rintro ⟨rest, whole⟩
    exact (reads first second rest [] (by simpa using whole)).1
  · rintro rfl
    exact List.prefix_rfl
  · rintro ⟨rfl, rfl⟩
    rfl
  · exact joinWith_map_injective reads (inspectWith_ne_nil hidden) equal
  · intro styled first second value other trace others equal
    have lines := congrArg String.toList (Option.some.inj equal)
    simp only [String.toList_append, List.append_assoc, List.append_cancel_left_eq] at lines
    exact (delimits_inspectWith Unicode.isHidden first second _ _ lines).1

/-- A text that looks like the end of its own structure and the beginning of another one. -/
example :
    (Expr.literal "\", case: Dative \x7d" .nominative).inspectWith (fun _ => false) =
      "Literal \x7b text: \"\\\", case: Dative \x7d\", case: Nominative \x7d" := by
  decide +kernel

end Expr

end Concord
