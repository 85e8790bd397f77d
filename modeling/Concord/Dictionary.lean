/-!
# Dictionaries

Finitely many keys with a value for each.  A later value for a key takes the place of the earlier
one.  The main statements say what a look-up finds after a value has been put in, and which keys
there are then.
-/

namespace Concord

/-- Keys with their values, each key once. -/
structure Dictionary (key value : Type) where
  /-- The keys with their values, in the order in which the keys came in. -/
  entries : List (key × value)
  distinct : (entries.map Prod.fst).Nodup

namespace Dictionary

variable {key value : Type} [DecidableEq key]

/-- The value that stands first beside a key. -/
def lookupIn (wanted : key) : List (key × value) → Option value
  | [] => none
  | (other, found) :: rest => if other = wanted then some found else lookupIn wanted rest

/-- Put a value beside a key, and hand out the value that stood there. -/
def exchangeIn
    (wanted : key)
    (new : value) :
    List (key × value) → Option value × List (key × value)
  | [] => (none, [(wanted, new)])
  | (other, found) :: rest =>
    if other = wanted then
      (some found, (wanted, new) :: rest)
    else
      let exchanged := exchangeIn wanted new rest
      (exchanged.1, (other, found) :: exchanged.2)

theorem exchangeIn_fst (wanted : key) (new : value) (entries : List (key × value)) :
    (exchangeIn wanted new entries).1 = lookupIn wanted entries := by
  induction entries with
  | nil => rfl
  | cons entry rest inductionHypothesis =>
    by_cases same : entry.1 = wanted <;> simp [exchangeIn, lookupIn, same, inductionHypothesis]

theorem lookupIn_exchangeIn
    (wanted asked : key)
    (new : value)
    (entries : List (key × value)) :
    lookupIn asked (exchangeIn wanted new entries).2 =
      if wanted = asked then some new else lookupIn asked entries := by
  induction entries with
  | nil => simp [exchangeIn, lookupIn]
  | cons entry rest inductionHypothesis =>
    by_cases same : entry.1 = wanted
    · by_cases asks : wanted = asked <;> simp [exchangeIn, lookupIn, same, asks]
    · by_cases asks : entry.1 = asked
      · subst asks
        have other : wanted ≠ entry.1 := fun equal => same equal.symm
        simp [exchangeIn, lookupIn, same, other]
      · simp [exchangeIn, lookupIn, same, asks, inductionHypothesis]

theorem keys_exchangeIn (wanted : key) (new : value) (entries : List (key × value)) :
    (exchangeIn wanted new entries).2.map Prod.fst =
      if wanted ∈ entries.map Prod.fst then
        entries.map Prod.fst
      else
        entries.map Prod.fst ++ [wanted] := by
  induction entries with
  | nil => simp [exchangeIn]
  | cons entry rest inductionHypothesis =>
    by_cases same : entry.1 = wanted
    · simp [exchangeIn, same]
    · have other : wanted ≠ entry.1 := fun equal => same equal.symm
      simp only [exchangeIn, same, if_false, List.map_cons, inductionHypothesis, List.mem_cons,
        other, false_or]
      split <;> simp

theorem mem_of_lookupIn {wanted : key} {found : value} {entries : List (key × value)}
    (stands : lookupIn wanted entries = some found) : (wanted, found) ∈ entries := by
  induction entries with
  | nil => cases stands
  | cons entry rest inductionHypothesis =>
    rcases entry with ⟨other, first⟩
    simp only [lookupIn] at stands
    split at stands
    · next same =>
      cases stands
      exact same ▸ List.mem_cons_self
    · exact List.mem_cons_of_mem _ (inductionHypothesis stands)

omit [DecidableEq key] in
theorem nodup_append_singleton {keys : List key} {wanted : key}
    (distinct : keys.Nodup) (absent : wanted ∉ keys) : (keys ++ [wanted]).Nodup := by
  rw [List.nodup_append]
  refine ⟨distinct, by simp, fun other member same single equal => ?_⟩
  rw [List.mem_singleton] at single
  exact absent (single ▸ equal ▸ member)

theorem nodup_exchangeIn {entries : List (key × value)}
    (distinct : (entries.map Prod.fst).Nodup) (wanted : key) (new : value) :
    ((exchangeIn wanted new entries).2.map Prod.fst).Nodup := by
  rw [keys_exchangeIn]
  split
  · exact distinct
  · exact nodup_append_singleton distinct ‹_›

def empty : Dictionary key value :=
  ⟨[], List.nodup_nil⟩

def get? (dictionary : Dictionary key value) (wanted : key) : Option value :=
  lookupIn wanted dictionary.entries

/-- Give a key a value, and hand out the value that it had. -/
def exchange
    (dictionary : Dictionary key value)
    (wanted : key)
    (new : value) :
    Option value × Dictionary key value :=
  let exchanged := exchangeIn wanted new dictionary.entries
  (exchanged.1, ⟨exchanged.2, nodup_exchangeIn dictionary.distinct wanted new⟩)

def insert
    (dictionary : Dictionary key value)
    (wanted : key)
    (new : value) :
    Dictionary key value :=
  (dictionary.exchange wanted new).2

omit [DecidableEq key] in
/-- The keys, in the order in which they came in. -/
def keys (dictionary : Dictionary key value) : List key :=
  dictionary.entries.map Prod.fst

omit [DecidableEq key] in
def size (dictionary : Dictionary key value) : Nat :=
  dictionary.entries.length

@[simp] theorem get?_empty (asked : key) : (empty : Dictionary key value).get? asked = none := rfl

theorem mem_entries_of_get? {dictionary : Dictionary key value} {wanted : key} {found : value}
    (stands : dictionary.get? wanted = some found) : (wanted, found) ∈ dictionary.entries :=
  mem_of_lookupIn stands

/-- What is handed out is what a look-up would have found. -/
theorem exchange_fst (dictionary : Dictionary key value) (wanted : key) (new : value) :
    (dictionary.exchange wanted new).1 = dictionary.get? wanted :=
  exchangeIn_fst wanted new dictionary.entries

/-- Giving a key a value changes what is found for this key and for no other. -/
theorem get?_insert (dictionary : Dictionary key value) (wanted asked : key) (new : value) :
    (dictionary.insert wanted new).get? asked =
      if wanted = asked then some new else dictionary.get? asked :=
  lookupIn_exchangeIn wanted asked new dictionary.entries

theorem keys_insert (dictionary : Dictionary key value) (wanted : key) (new : value) :
    (dictionary.insert wanted new).keys =
      if wanted ∈ dictionary.keys then dictionary.keys else dictionary.keys ++ [wanted] :=
  keys_exchangeIn wanted new dictionary.entries

omit [DecidableEq key] in
theorem size_eq_length_keys (dictionary : Dictionary key value) :
    dictionary.size = dictionary.keys.length := by
  simp [size, keys]

end Dictionary

end Concord
