import Mathlib.Data.List.Basic
import Concord.Proofs.Text.Blanks
import Concord.Text.Join
import Concord.Text.Quoted

/-!
# Written forms that end by themselves

A written form ends by itself if it is told apart from all others, and from what stands behind it,
wherever it stands.  Then forms can be written one behind the other and read back one by one.  The
main statements of this file say that text between quotes is such a form, whichever characters
count as hidden: an escape is never the beginning of another one, and none begins with a quote.
-/

namespace Concord.Text

/--
The written form of a value ends by itself: in front of any text it is told apart from every other
written form, and from this text.
-/
def Delimits (write : value → List Char) (first : value) : Prop :=
  ∀ second rest others, write first ++ rest = write second ++ others →
    first = second ∧ rest = others

section Lists

variable {write : value → List Char}

/-- A list of forms ends by itself at a character with which no form begins. -/
theorem Delimits.flatMap_append {stop : Char} {items : List value}
    (each : ∀ item ∈ items, Delimits write item)
    (nonempty : ∀ item, write item ≠ [])
    (stops : ∀ item, stop ∉ (write item).head?) :
    Delimits (fun items => items.flatMap write ++ [stop]) items := by
  have apart : ∀ item rest others, stop :: rest ≠ write item ++ others := by
    intro item rest others equal
    rcases List.exists_cons_of_ne_nil (nonempty item) with ⟨c, written, first⟩
    rw [first, List.cons_append, List.cons.injEq] at equal
    apply stops item
    simp [first, equal.1]
  induction items with
  | nil =>
    intro second rest others equal
    cases second with
    | nil => exact ⟨rfl, by simpa using equal⟩
    | cons item second =>
      refine absurd ?_ (apart item rest (second.flatMap write ++ stop :: others))
      simpa using equal
  | cons item items inductionHypothesis =>
    rcases List.forall_mem_cons.mp each with ⟨first, later⟩
    intro second rest others equal
    cases second with
    | nil =>
      refine absurd ?_ (apart item others (items.flatMap write ++ stop :: rest))
      simpa using equal.symm
    | cons other second =>
      simp only [List.flatMap_cons, List.append_assoc] at equal
      rcases first _ _ _ equal with ⟨rfl, behind⟩
      rcases inductionHypothesis later second rest others (by simpa using behind) with ⟨rfl, same⟩
      exact ⟨rfl, same⟩

/-- Forms that are written one behind the other can be read back one by one. -/
theorem flatMap_injective (each : ∀ item, Delimits write item)
    (nonempty : ∀ item, write item ≠ []) :
    Function.Injective fun items : List value => items.flatMap write := by
  intro items others equal
  induction items generalizing others with
  | nil =>
    cases others with
    | nil => rfl
    | cons other others => simp [nonempty] at equal
  | cons item items inductionHypothesis =>
    cases others with
    | nil => simp [nonempty] at equal
    | cons other others =>
      rcases each item other _ _ equal with ⟨rfl, behind⟩
      rw [inductionHypothesis behind]

end Lists

section Parts

variable {write : value → List Char} {writeOther : other → List Char} {first : value}

theorem Delimits.append_left (delimits : Delimits write first) (label : List Char) :
    Delimits (fun item => label ++ write item) first := by
  intro second rest others equal
  simp only [List.append_assoc, List.append_cancel_left_eq] at equal
  exact delimits second rest others equal

theorem Delimits.append_right (delimits : Delimits write first) (label : List Char) :
    Delimits (fun item => write item ++ label) first := by
  intro second rest others equal
  simp only [List.append_assoc] at equal
  rcases delimits second _ _ equal with ⟨same, behind⟩
  exact ⟨same, List.append_cancel_left behind⟩

/-- Two forms with a label between them. -/
theorem Delimits.pair {second : other} (delimits : Delimits write first) (label : List Char)
    (delimitsOther : Delimits writeOther second) :
    Delimits (fun pair : value × other => write pair.1 ++ (label ++ writeOther pair.2))
      (first, second) := by
  rintro ⟨third, fourth⟩ rest others equal
  simp only [List.append_assoc] at equal
  rcases delimits third _ _ equal with ⟨rfl, behind⟩
  rcases delimitsOther fourth _ _ (List.append_cancel_left behind) with ⟨rfl, same⟩
  exact ⟨rfl, same⟩

end Parts

/-! ## Numbers -/

/-- The last digit stands behind the digits of the sixteenth part. -/
theorem hexadecimal_eq (point : Nat) :
    hexadecimal point =
      (if point < 16 then [] else hexadecimal (point / 16)) ++ [Nat.digitChar (point % 16)] := by
  unfold hexadecimal
  split
  · next small => rw [Nat.toDigits_of_lt_base small, Nat.mod_eq_of_lt small, List.nil_append]
  · next large => rw [Nat.toDigits_of_base_le (by decide) (Nat.not_lt.mp large)]

theorem hexadecimal_ne_nil (point : Nat) : hexadecimal point ≠ [] :=
  Nat.toDigits_ne_nil

theorem hexadecimal_injective : Function.Injective hexadecimal := by
  have digits : ∀ digit < 16, ∀ other < 16, Nat.digitChar digit = Nat.digitChar other →
      digit = other := by
    decide
  intro first second equal
  induction first using Nat.strong_induction_on generalizing second with
  | _ first inductionHypothesis =>
    rw [hexadecimal_eq first, hexadecimal_eq second] at equal
    rcases List.append_inj' equal rfl with ⟨higher, last⟩
    have low : first % 16 = second % 16 :=
      digits _ (Nat.mod_lt _ (by decide)) _ (Nat.mod_lt _ (by decide)) (by simpa using last)
    have high : first / 16 = second / 16 := by
      split at higher <;> split at higher
      · omega
      · exact absurd higher.symm (hexadecimal_ne_nil _)
      · exact absurd higher (hexadecimal_ne_nil _)
      · exact inductionHypothesis _ (by omega) higher
    omega

theorem brace_not_mem_hexadecimal (point : Nat) : '\x7d' ∉ hexadecimal point := by
  have digits : ∀ digit < 16, '\x7d' ≠ Nat.digitChar digit := by
    decide
  induction point using Nat.strong_induction_on with
  | _ point inductionHypothesis =>
    rw [hexadecimal_eq, List.mem_append, List.mem_singleton]
    rintro (higher | last)
    · split at higher
      · cases higher
      · exact inductionHypothesis _ (by omega) higher
    · exact digits _ (Nat.mod_lt _ (by decide)) last

/-- A text is cut in one way in front of a character that is not in the first part. -/
theorem append_cons_inj_of_not_mem {stop : Char} {first second rest others : List Char}
    (absent : stop ∉ first) (alsoAbsent : stop ∉ second)
    (equal : first ++ stop :: rest = second ++ stop :: others) :
    first = second ∧ rest = others := by
  have cut : ∀ run behind : List Char, stop ∉ run →
      (run ++ stop :: behind).takeWhile (· ≠ stop) = run ∧
        (run ++ stop :: behind).dropWhile (· ≠ stop) = stop :: behind := by
    intro run behind absent
    exact split_iff.mpr ⟨rfl, decide_ne_of_not_mem absent, by simp⟩
  rcases cut first rest absent with ⟨front, back⟩
  rcases cut second others alsoAbsent with ⟨otherFront, otherBack⟩
  rw [equal] at front back
  exact ⟨front.symm.trans otherFront, (List.cons.inj (back.symm.trans otherBack)).2⟩

theorem delimits_hexadecimal (point : Nat) :
    Delimits (fun point => hexadecimal point ++ ['\x7d']) point := by
  intro second rest others equal
  simp only [List.append_assoc, List.singleton_append] at equal
  rcases append_cons_inj_of_not_mem (brace_not_mem_hexadecimal point)
    (brace_not_mem_hexadecimal second) equal with ⟨same, behind⟩
  exact ⟨hexadecimal_injective same, behind⟩

/-! ## Characters between quotes -/

/-- The characters that are written as a letter behind a backslash, each with its letter. -/
def namedEscapes : List (Char × Char) :=
  [('\x00', '0'), ('\t', 't'), ('\r', 'r'), ('\n', 'n'), ('"', '"'), ('\\', '\\')]

/-- The written forms of a character: as itself, by a letter, or by its code point. -/
inductive Escape (c : Char) : List Char → Prop
  | itself (notQuote : c ≠ '"') (notBackslash : c ≠ '\\') : Escape c [c]
  | named (listed : (c, letter) ∈ namedEscapes) : Escape c ['\\', letter]
  | numbered : Escape c ('\\' :: 'u' :: '\x7b' :: (hexadecimal c.toNat ++ ['\x7d']))

theorem escape_escapeChar (hidden : Char → Bool) (c : Char) : Escape c (escapeChar hidden c) := by
  unfold escapeChar
  split_ifs with nul tab carriageReturn lineFeed quote backslash numbered
  · exact .named (by simp [namedEscapes, nul])
  · exact .named (by simp [namedEscapes, tab])
  · exact .named (by simp [namedEscapes, carriageReturn])
  · exact .named (by simp [namedEscapes, lineFeed])
  · exact .named (by simp [namedEscapes, quote])
  · exact .named (by simp [namedEscapes, backslash])
  · exact .numbered
  · exact .itself quote backslash

theorem Escape.ne_nil {c : Char} {written : List Char} (escape : Escape c written) :
    written ≠ [] := by
  cases escape <;> simp

theorem Escape.quote_not_mem_head? {c : Char} {written : List Char} (escape : Escape c written) :
    '"' ∉ written.head? := by
  cases escape with
  | itself notQuote _ => simpa using notQuote
  | named => simp
  | numbered => simp

theorem delimits_escapeChar (hidden : Char → Bool) (c : Char) :
    Delimits (escapeChar hidden) c := by
  have apart : ∀ first ∈ namedEscapes, ∀ second ∈ namedEscapes, first.2 = second.2 →
      first.1 = second.1 := by
    decide
  have notNumber : ∀ named ∈ namedEscapes, named.2 ≠ 'u' := by
    decide
  intro d rest others equal
  have first := escape_escapeChar hidden c
  have second := escape_escapeChar hidden d
  generalize escapeChar hidden c = written at first equal
  generalize escapeChar hidden d = otherWritten at second equal
  cases first with
  | itself _ notBackslash =>
    cases second with
    | itself => simpa using equal
    | named => exact absurd (List.cons.inj equal).1 notBackslash
    | numbered => exact absurd (List.cons.inj equal).1 notBackslash
  | @named letter listed =>
    cases second with
    | itself _ notBackslash => exact absurd (List.cons.inj equal).1.symm notBackslash
    | @named other otherListed =>
      obtain ⟨same, behind⟩ : letter = other ∧ rest = others := by simpa using equal
      exact ⟨apart _ listed _ otherListed same, behind⟩
    | numbered =>
      have letterU : letter = 'u' := (List.cons.inj (List.cons.inj equal).2).1
      exact absurd letterU (notNumber _ listed)
  | numbered =>
    cases second with
    | itself _ notBackslash => exact absurd (List.cons.inj equal).1.symm notBackslash
    | @named other otherListed =>
      have letterU : other = 'u' := (List.cons.inj (List.cons.inj equal).2).1.symm
      exact absurd letterU (notNumber _ otherListed)
    | numbered =>
      rcases delimits_hexadecimal c.toNat d.toNat rest others (by simpa using equal) with
        ⟨same, behind⟩
      exact ⟨Char.toNat_inj.mp same, behind⟩

/-- A text between quotes ends by itself, whatever it holds. -/
theorem delimits_quoteWith (hidden : Char → Bool) (text : String) :
    Delimits (fun text => (quoteWith hidden text).toList) text := by
  intro second rest others equal
  have inner : Delimits (fun items => items.flatMap (escapeChar hidden) ++ ['"']) text.toList := by
    apply Delimits.flatMap_append
    · intro c _
      exact delimits_escapeChar hidden c
    · intro c
      exact (escape_escapeChar hidden c).ne_nil
    · intro c
      exact (escape_escapeChar hidden c).quote_not_mem_head?
  rcases inner second.toList rest others (by simpa [quoteWith] using equal) with ⟨same, behind⟩
  exact ⟨String.toList_inj.mp same, behind⟩

end Concord.Text
