import Convoy.Proofs.Dictionary
import Convoy.Routing

/-!
# The routing table as a set of slots

What a routing table holds after slots have been inserted and erased. The table lists no service
without a slot, and the slots of a service in order, so that tables which hold the same slots are
equal.
-/

namespace Convoy.Routing

theorem mem_insertIndex {index other : Nat} {indices : List Nat} :
    other ∈ insertIndex index indices ↔ other = index ∨ other ∈ indices := by
  induction indices with
  | nil => simp [insertIndex]
  | cons first rest induction =>
    unfold insertIndex
    split
    · exact List.mem_cons
    · split
      · rw [List.mem_cons, induction, List.mem_cons]
        exact or_left_comm
      · rename_i notBelow notAbove
        have same : first = index := by omega
        simp [same]

theorem pairwise_insertIndex {index : Nat} {indices : List Nat}
    (ordered : indices.Pairwise (· < ·)) : (insertIndex index indices).Pairwise (· < ·) := by
  induction indices with
  | nil => exact List.pairwise_singleton _ _
  | cons first rest induction =>
    rcases List.pairwise_cons.1 ordered with ⟨above, later⟩
    unfold insertIndex
    split
    · rename_i below
      refine List.pairwise_cons.2 ⟨?_, ordered⟩
      intro other member
      rcases List.mem_cons.1 member with rfl | further
      · exact below
      · exact Nat.lt_trans below (above other further)
    · split
      · rename_i after
        refine List.pairwise_cons.2 ⟨?_, induction later⟩
        intro other member
        rcases mem_insertIndex.1 member with rfl | further
        · exact after
        · exact above other further
      · exact ordered

variable (routing : Routing) (slot other : Slot)

theorem contains_iff : routing.contains slot = true ↔ slot.index ∈ routing.slots slot.service := by
  simp [contains]

theorem slots_insert (service : String) :
    (routing.insert slot).slots service =
      if service = slot.service then insertIndex slot.index (routing.slots slot.service)
      else routing.slots service := by
  unfold insert slots
  rw [Dictionary.get?_insert]
  split <;> rfl

theorem slots_erase (service : String) :
    (routing.erase slot).slots service =
      if service = slot.service then (routing.slots slot.service).filter (· != slot.index)
      else routing.slots service := by
  unfold erase
  split
  · rename_i none
    rw [none, slots, Dictionary.get?_erase]
    split <;> rfl
  · rw [slots, Dictionary.get?_insert]
    split <;> rfl

theorem contains_insert :
    (routing.insert slot).contains other = true ↔ other = slot ∨ routing.contains other = true := by
  rw [contains_iff, contains_iff, slots_insert]
  rcases slot with ⟨service, index⟩
  rcases other with ⟨otherService, otherIndex⟩
  by_cases same : otherService = service
  · subst same
    simp [mem_insertIndex]
  · simp [same]

theorem contains_erase :
    (routing.erase slot).contains other = true ↔ other ≠ slot ∧ routing.contains other = true := by
  rw [contains_iff, contains_iff, slots_erase]
  rcases slot with ⟨service, index⟩
  rcases other with ⟨otherService, otherIndex⟩
  by_cases same : otherService = service
  · subst same
    simp [and_comm]
  · simp [same]

/-- Every service in a table has a slot there, and its slots are in increasing order. -/
def Tidy : Prop :=
  ∀ service indices, routing.table.get? service = some indices →
    indices ≠ [] ∧ indices.Pairwise (· < ·)

variable {routing}

theorem Tidy.empty : Tidy empty := by
  intro service indices found
  cases found

theorem Tidy.pairwise_slots (tidy : routing.Tidy) (service : String) :
    (routing.slots service).Pairwise (· < ·) := by
  unfold slots
  cases found : routing.table.get? service with
  | none => exact .nil
  | some indices => exact (tidy service indices found).2

theorem Tidy.insert (tidy : routing.Tidy) : (routing.insert slot).Tidy := by
  intro service indices found
  unfold Routing.insert at found
  rw [Dictionary.get?_insert] at found
  split at found
  · cases found
    refine ⟨List.ne_nil_of_mem (mem_insertIndex.2 (Or.inl rfl)), ?_⟩
    exact pairwise_insertIndex (tidy.pairwise_slots slot.service)
  · exact tidy service indices found

theorem Tidy.erase (tidy : routing.Tidy) : (routing.erase slot).Tidy := by
  intro service indices found
  unfold Routing.erase at found
  split at found
  · rw [Dictionary.get?_erase] at found
    split at found
    · cases found
    · exact tidy service indices found
  · rename_i some
    rw [Dictionary.get?_insert] at found
    split at found
    · cases found
      exact ⟨some, (tidy.pairwise_slots slot.service).filter _⟩
    · exact tidy service indices found

/-- A tidy table lists a service exactly if it holds one of its slots. -/
theorem Tidy.get?_eq (tidy : routing.Tidy) (service : String) :
    routing.table.get? service =
      if routing.slots service = [] then none else some (routing.slots service) := by
  unfold slots
  cases found : routing.table.get? service with
  | none => rfl
  | some indices =>
    rw [Option.getD_some, if_neg (tidy service indices found).1]

/-- Tidy tables that hold the same slots are equal. -/
theorem Tidy.ext {second : Routing} (tidy : routing.Tidy) (secondTidy : second.Tidy)
    (same : ∀ slot, routing.contains slot = true ↔ second.contains slot = true) :
    routing = second := by
  have slots : ∀ service, routing.slots service = second.slots service := by
    intro service
    apply (tidy.pairwise_slots service).eq_of_mem_iff (secondTidy.pairwise_slots service)
    intro index
    rw [← contains_iff routing ⟨service, index⟩, same, contains_iff]
  have table : routing.table = second.table := by
    apply Dictionary.ext_get?
    intro service
    rw [tidy.get?_eq, secondTidy.get?_eq, slots service]
  cases routing
  cases table
  rfl

/-- A table that holds no slot lists no service. -/
theorem Tidy.eq_empty (tidy : routing.Tidy) (none : ∀ slot, routing.contains slot ≠ true) :
    routing = Routing.empty := by
  apply tidy.ext Tidy.empty
  intro slot
  exact ⟨fun contained => absurd contained (none slot), fun contained => nomatch contained⟩

end Convoy.Routing
