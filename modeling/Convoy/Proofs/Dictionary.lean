import Convoy.Dictionary
import Mathlib.Data.List.Sort

/-!
# Looking up keys

What a key maps to after a dictionary has been changed, or has been built from a list. The order of
the entries plays no part here beyond making the keys distinct.
-/

namespace Convoy.Dictionary

variable {α : Type}

/-- No two entries share a key. -/
theorem nodup_keys (dictionary : Dictionary α) : dictionary.keys.Nodup := by
  rw [keys, List.nodup_iff_pairwise_ne, List.pairwise_map]
  exact dictionary.ordered.imp fun before => String.ne_of_lt before

/-- A look-up by equality of keys, not by their Boolean test. -/
theorem lookup_cons_ite (key first : String) (content : α) (rest : List (String × α)) :
    ((first, content) :: rest).lookup key =
      if key = first then some content else rest.lookup key := by
  rw [List.lookup_cons]
  by_cases equal : key = first
  · rw [beq_iff_eq.2 equal, if_pos equal]
  · rw [beq_eq_false_iff_ne.2 equal, if_neg equal]

/-- Among entries with distinct keys, a look-up finds exactly the entries. -/
theorem lookup_eq_some_iff_mem {entries : List (String × α)} {key : String} {value : α}
    (distinct : (entries.map (·.1)).Nodup) :
    entries.lookup key = some value ↔ (key, value) ∈ entries := by
  induction entries with
  | nil => simp
  | cons entry rest induction =>
    rcases entry with ⟨first, content⟩
    rw [List.map_cons, List.nodup_cons] at distinct
    rw [lookup_cons_ite, List.mem_cons]
    by_cases equal : key = first
    · subst equal
      have absent : (key, value) ∉ rest := fun member =>
        distinct.1 (List.mem_map.2 ⟨_, member, rfl⟩)
      simp [absent, eq_comm]
    · simp [equal, induction distinct.2]

theorem get?_eq_some_iff {dictionary : Dictionary α} {key : String} {value : α} :
    dictionary.get? key = some value ↔ (key, value) ∈ dictionary.entries :=
  lookup_eq_some_iff_mem dictionary.nodup_keys

/-- Smaller keys come first. -/
theorem mem_before_of_lt
    {dictionary : Dictionary α} {before after : List (String × α)} {entry pair : String × α}
    (split : dictionary.entries = before ++ entry :: after) (member : pair ∈ dictionary.entries)
    (less : pair.1 < entry.1) : pair ∈ before := by
  have ordered := split ▸ dictionary.ordered
  obtain ⟨above, -⟩ := List.pairwise_cons.1 (List.pairwise_append.1 ordered).2.1
  rcases List.mem_append.1 (split ▸ member) with earlier | later
  · exact earlier
  · rcases List.mem_cons.1 later with rfl | behind
    · exact absurd less (String.lt_irrefl _)
    · exact absurd (String.lt_trans less (above pair behind)) (String.lt_irrefl _)

theorem contains_iff_exists {dictionary : Dictionary α} {key : String} :
    dictionary.contains key = true ↔ ∃ value, dictionary.get? key = some value :=
  Option.isSome_iff_exists

theorem lookup_insertEntry (key other : String) (value : α) (entries : List (String × α)) :
    (insertEntry key value entries).lookup other =
      if other = key then some value else entries.lookup other := by
  induction entries with
  | nil => exact lookup_cons_ite other key value []
  | cons entry rest induction =>
    rcases entry with ⟨first, content⟩
    unfold insertEntry
    split
    · exact lookup_cons_ite other key value _
    · rename_i notBefore
      split
      · rename_i after
        have different : first ≠ key := String.ne_of_lt after
        rw [lookup_cons_ite, lookup_cons_ite, induction]
        by_cases equal : other = first
        · subst equal
          simp [different]
        · simp [equal]
      · rename_i notAfter
        have same : first = key := String.le_antisymm notBefore notAfter
        subst same
        rw [lookup_cons_ite, lookup_cons_ite]
        by_cases equal : other = first <;> simp [equal]

theorem get?_insert (dictionary : Dictionary α) (key other : String) (value : α) :
    (dictionary.insert key value).get? other =
      if other = key then some value else dictionary.get? other :=
  lookup_insertEntry key other value dictionary.entries

/-- A pair that is inserted unless its key is taken stands behind the pairs that are there. -/
theorem get?_insert_unless_contains (dictionary : Dictionary α) (key other : String) (value : α) :
    (if dictionary.contains key then dictionary else dictionary.insert key value).get? other =
      (dictionary.get? other).or (if other = key then some value else none) := by
  split
  · rename_i present
    obtain ⟨former, found⟩ := contains_iff_exists.1 present
    by_cases equal : other = key
    · rw [equal, found, Option.some_or]
    · rw [if_neg equal, Option.or_none]
  · rename_i absent
    have free : dictionary.get? key = none := by
      simpa [contains] using absent
    rw [get?_insert]
    by_cases equal : other = key
    · rw [if_pos equal, if_pos equal, equal, free, Option.none_or]
    · rw [if_neg equal, if_neg equal, Option.or_none]

@[simp]
theorem get?_empty (key : String) : (empty : Dictionary α).get? key = none := rfl

theorem get?_erase (dictionary : Dictionary α) (key other : String) :
    (dictionary.erase key).get? other =
      if other = key then none else dictionary.get? other := by
  have split : ∀ value, (dictionary.erase key).get? other = some value ↔
      other ≠ key ∧ dictionary.get? other = some value := by
    intro value
    rw [get?_eq_some_iff, get?_eq_some_iff]
    simp [erase, and_comm]
  by_cases equal : other = key
  · rw [if_pos equal]
    exact Option.eq_none_iff_forall_ne_some.2 fun value found => ((split value).1 found).1 equal
  · rw [if_neg equal]
    exact Option.ext fun value => (split value).trans (and_iff_right equal)

theorem get?_map {β : Type} (transform : String → α → β) (dictionary : Dictionary α)
    (key : String) :
    (dictionary.map transform).get? key = (dictionary.get? key).map (transform key) := by
  refine Option.ext fun value => ?_
  simp only [get?_eq_some_iff, Option.map_eq_some_iff, map, List.mem_map, Prod.mk.injEq]
  constructor
  · rintro ⟨⟨_, former⟩, member, rfl, rfl⟩
    exact ⟨former, member, rfl⟩
  · rintro ⟨former, member, rfl⟩
    exact ⟨(key, former), member, rfl, rfl⟩

/-- A dictionary is what its look-ups say. -/
theorem ext_get? {first second : Dictionary α}
    (same : ∀ key, first.get? key = second.get? key) : first = second := by
  have irrefl : Std.Irrefl fun former latter : String × α => former.1 < latter.1 :=
    ⟨fun entry => String.lt_irrefl entry.1⟩
  have antisymm : Std.Antisymm fun former latter : String × α => former.1 < latter.1 :=
    ⟨fun former latter before after => absurd (String.lt_trans before after) (String.lt_irrefl _)⟩
  have entries : first.entries = second.entries := by
    apply first.ordered.eq_of_mem_iff second.ordered
    rintro ⟨key, value⟩
    rw [← get?_eq_some_iff, ← get?_eq_some_iff, same key]
  cases first
  cases second
  cases entries
  rfl

theorem get?_foldl_insert (pairs : List (String × α)) (dictionary : Dictionary α) (key : String) :
    (pairs.foldl (fun built pair => built.insert pair.1 pair.2) dictionary).get? key =
      (pairs.reverse.lookup key).or (dictionary.get? key) := by
  induction pairs generalizing dictionary with
  | nil => rfl
  | cons pair rest induction =>
    rw [List.foldl_cons, induction, get?_insert, List.reverse_cons, List.lookup_append,
      Option.or_assoc, lookup_cons_ite]
    by_cases equal : key = pair.1 <;> simp [equal]

/-- The last pair with a key decides its value. -/
theorem get?_ofList (pairs : List (String × α)) (key : String) :
    (ofList pairs).get? key = pairs.reverse.lookup key := by
  simp [ofList, get?_foldl_insert]

/-- A dictionary from pairs with distinct keys holds exactly these pairs. -/
theorem get?_ofList_eq_some_iff {pairs : List (String × α)} {key : String} {value : α}
    (distinct : (pairs.map (·.1)).Nodup) :
    (ofList pairs).get? key = some value ↔ (key, value) ∈ pairs := by
  rw [get?_ofList, lookup_eq_some_iff_mem, List.mem_reverse]
  rwa [List.map_reverse, List.nodup_reverse]

end Convoy.Dictionary
