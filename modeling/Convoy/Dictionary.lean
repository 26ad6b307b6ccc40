/-!
# Dictionaries in the order of their keys

A dictionary is a list of pairs whose keys strictly increase. Its order is therefore that of the
keys, however it was built, and two dictionaries with the same entries are equal.
-/

namespace Convoy

/-- Finitely many keys, each with one value, listed in increasing order of the keys. -/
structure Dictionary (α : Type) where
  entries : List (String × α)
  ordered : entries.Pairwise (fun first second => first.1 < second.1)

namespace Dictionary

variable {α β : Type}

def empty : Dictionary α := ⟨[], .nil⟩

instance : Inhabited (Dictionary α) := ⟨empty⟩

def isEmpty (dictionary : Dictionary α) : Bool := dictionary.entries.isEmpty

def keys (dictionary : Dictionary α) : List String := dictionary.entries.map (·.1)

def values (dictionary : Dictionary α) : List α := dictionary.entries.map (·.2)

def size (dictionary : Dictionary α) : Nat := dictionary.entries.length

def get? (dictionary : Dictionary α) (key : String) : Option α :=
  dictionary.entries.lookup key

def contains (dictionary : Dictionary α) (key : String) : Bool :=
  (dictionary.get? key).isSome

/-- Puts a pair where its key belongs; a pair with the same key gives way. -/
def insertEntry (key : String) (value : α) : List (String × α) → List (String × α)
  | [] => [(key, value)]
  | entry :: rest =>
    if key < entry.1 then (key, value) :: entry :: rest
    else if entry.1 < key then entry :: insertEntry key value rest
    else (key, value) :: rest

theorem mem_insertEntry
    {key : String} {value : α} {entries : List (String × α)} {pair : String × α}
    (member : pair ∈ insertEntry key value entries) :
    pair = (key, value) ∨ pair ∈ entries := by
  induction entries with
  | nil => exact .inl (List.mem_singleton.1 member)
  | cons entry rest hypothesis =>
    unfold insertEntry at member
    split at member
    · exact List.mem_cons.1 member
    · split at member
      · rcases List.mem_cons.1 member with rfl | later
        · exact .inr List.mem_cons_self
        · exact (hypothesis later).imp_right (List.mem_cons_of_mem entry)
      · exact (List.mem_cons.1 member).imp_right (List.mem_cons_of_mem entry)

theorem ordered_insertEntry
    (key : String) (value : α) {entries : List (String × α)}
    (ordered : entries.Pairwise (fun first second => first.1 < second.1)) :
    (insertEntry key value entries).Pairwise (fun first second => first.1 < second.1) := by
  induction entries with
  | nil => exact List.pairwise_singleton _ _
  | cons entry rest hypothesis =>
    have above := (List.pairwise_cons.1 ordered).1
    have below := (List.pairwise_cons.1 ordered).2
    unfold insertEntry
    split
    · rename_i before
      refine List.pairwise_cons.2 ⟨fun pair member => ?_, ordered⟩
      rcases List.mem_cons.1 member with rfl | later
      · exact before
      · exact String.lt_trans before (above pair later)
    · split
      · rename_i after
        refine List.pairwise_cons.2 ⟨fun pair member => ?_, hypothesis below⟩
        rcases mem_insertEntry member with rfl | later
        · exact after
        · exact above pair later
      · rename_i notBefore notAfter
        have same : entry.1 = key := String.le_antisymm notBefore notAfter
        exact List.pairwise_cons.2 ⟨fun pair member => same ▸ above pair member, below⟩

/-- The dictionary with one key set to a value. -/
def insert (dictionary : Dictionary α) (key : String) (value : α) : Dictionary α :=
  ⟨insertEntry key value dictionary.entries, ordered_insertEntry key value dictionary.ordered⟩

/-- The dictionary without a key. -/
def erase (dictionary : Dictionary α) (key : String) : Dictionary α :=
  ⟨dictionary.entries.filter (·.1 != key), dictionary.ordered.filter _⟩

/-- Inserts pairs one after another, so that the last pair with a key decides its value. -/
def ofList (pairs : List (String × α)) : Dictionary α :=
  pairs.foldl (fun dictionary pair => dictionary.insert pair.1 pair.2) empty

/-- The dictionary with every value replaced, keys kept. -/
def map (transform : String → α → β) (dictionary : Dictionary α) : Dictionary β where
  entries := dictionary.entries.map fun entry => (entry.1, transform entry.1 entry.2)
  ordered := List.pairwise_map.2 dictionary.ordered

/-- Inserts every pair of the second dictionary into the first. -/
def union (first second : Dictionary α) : Dictionary α :=
  second.entries.foldl (fun dictionary pair => dictionary.insert pair.1 pair.2) first

instance [DecidableEq α] : DecidableEq (Dictionary α) := fun first second =>
  if same : first.entries = second.entries then
    isTrue (by cases first; cases second; subst same; rfl)
  else isFalse fun equal => same (congrArg entries equal)

end Dictionary

end Convoy
