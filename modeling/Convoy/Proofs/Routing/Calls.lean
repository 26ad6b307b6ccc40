import Convoy.Proofs.Routing
import Mathlib.Data.Finset.Sort

/-!
# Calls on a routing table

A routing table groups its slots by service. Whoever calls it cannot tell it from one set of slots:
however many calls are made on an empty table, and whatever they are about, the answers are those
of the set, the table lists the slots of the set and no others, and a service whose last slot has
gone leaves no trace.
-/

namespace Convoy.Routing

/-- What is asked of a routing table. -/
inductive Call where
  | add (slot : Slot)
  | remove (slot : Slot)
  | routable (service : String)

/-- What a call is answered with: whether it has changed anything, or the slots of a service. -/
inductive Answer where
  | changed (whether : Bool)
  | slots (indices : List Nat)
  deriving DecidableEq

/-- Answers a call, and gives the table that the call leaves. -/
def serve (routing : Routing) : Call → Answer × Routing
  | .add slot => (routing.add slot).map .changed id
  | .remove slot => (routing.remove slot).map .changed id
  | .routable service => (.slots (routing.slots service), routing)

namespace Call

/-- Makes calls one after another; gives their answers and what they leave in the end. -/
def run {State : Type} (serve : State → Call → Answer × State) (state : State) :
    List Call → List Answer × State
  | [] => ([], state)
  | call :: later =>
    let (answer, next) := serve state call
    let (answers, last) := run serve next later
    (answer :: answers, last)

/-- The slots of one service in a set, in increasing order. -/
def indicesIn (present : Finset Slot) (service : String) : List Nat :=
  ((present.filter (·.service = service)).image Slot.index).sort

/-- Answers a call by a set of slots, and gives the set that the call leaves. -/
def onSet (present : Finset Slot) : Call → Answer × Finset Slot
  | .add slot => (.changed (slot ∉ present), Insert.insert slot present)
  | .remove slot => (.changed (slot ∈ present), present.erase slot)
  | .routable service => (.slots (indicesIn present service), present)

theorem mem_indicesIn {present : Finset Slot} {service : String} {index : Nat} :
    index ∈ indicesIn present service ↔ ⟨service, index⟩ ∈ present := by
  rw [indicesIn, Finset.mem_sort, Finset.mem_image]
  constructor
  · rintro ⟨slot, member, rfl⟩
    obtain ⟨within, rfl⟩ := Finset.mem_filter.1 member
    exact within
  · intro member
    exact ⟨⟨service, index⟩, Finset.mem_filter.2 ⟨member, rfl⟩, rfl⟩

theorem pairwise_indicesIn (present : Finset Slot) (service : String) :
    (indicesIn present service).Pairwise (· < ·) :=
  (Finset.sortedLT_sort _).pairwise

end Call

/-! ## What a table lists -/

/-- The slots that a table lists, service by service. -/
def listed (routing : Routing) : List Slot :=
  routing.table.entries.flatMap fun entry => entry.2.map (Slot.mk entry.1)

variable {routing : Routing} {slot : Slot}

theorem mem_listed : slot ∈ routing.listed ↔ routing.contains slot = true := by
  rcases slot with ⟨service, index⟩
  rw [contains_iff, slots, listed, List.mem_flatMap]
  constructor
  · rintro ⟨⟨key, indices⟩, entry, member⟩
    obtain ⟨other, within, same⟩ := List.mem_map.1 member
    cases same
    rw [Dictionary.get?_eq_some_iff.2 entry]
    exact within
  · intro member
    cases found : routing.table.get? service with
    | none => simp [found] at member
    | some indices =>
      rw [found] at member
      exact ⟨⟨service, indices⟩, Dictionary.get?_eq_some_iff.1 found,
        List.mem_map_of_mem member⟩

namespace Tidy

theorem of_mem_entries (tidy : routing.Tidy) {entry : String × List Nat}
    (member : entry ∈ routing.table.entries) : entry.2 ≠ [] ∧ entry.2.Pairwise (· < ·) :=
  tidy entry.1 entry.2 (Dictionary.get?_eq_some_iff.2 member)

/-- A tidy table lists no slot twice. -/
theorem nodup_listed (tidy : routing.Tidy) : routing.listed.Nodup := by
  -- Slots of one service differ in their numbers, those of two services in the service.
  refine List.nodup_flatMap.2 ⟨?_, ?_⟩
  · intro entry member
    refine List.Nodup.map ?_ ((tidy.of_mem_entries member).2.imp Nat.ne_of_lt)
    exact fun first second same => (Slot.mk.inj same).2
  · refine routing.table.ordered.imp ?_
    intro former latter before slot first second
    obtain ⟨_, -, rfl⟩ := List.mem_map.1 first
    obtain ⟨_, -, same⟩ := List.mem_map.1 second
    exact String.ne_of_lt before (Slot.mk.inj same).1.symm

/-- A tidy table is empty exactly if it lists no slot. -/
theorem isEmpty_iff (tidy : routing.Tidy) :
    routing.table.isEmpty = true ↔ ∀ slot, routing.contains slot ≠ true := by
  constructor
  · intro none slot contained
    rw [← mem_listed, listed, List.isEmpty_iff.1 none] at contained
    cases contained
  · intro none
    rw [tidy.eq_empty none]
    rfl

end Tidy

/-! ## Calls on a table and on a set -/

/-- A tidy table holds exactly the slots of a set. -/
structure Shows (routing : Routing) (present : Finset Slot) : Prop where
  tidy : routing.Tidy
  contains_iff : ∀ slot, routing.contains slot = true ↔ slot ∈ present

namespace Shows

variable {present : Finset Slot}

theorem empty : Shows empty ∅ where
  tidy := .empty
  contains_iff slot := iff_of_false (fun contained => nomatch contained) (Finset.notMem_empty slot)

theorem contains_eq (shows : routing.Shows present) (slot : Slot) :
    routing.contains slot = decide (slot ∈ present) :=
  Bool.eq_iff_iff.2 ((shows.contains_iff slot).trans decide_eq_true_iff.symm)

theorem insert (shows : routing.Shows present) (slot : Slot) :
    (routing.insert slot).Shows (Insert.insert slot present) where
  tidy := shows.tidy.insert slot
  contains_iff other := by
    rw [contains_insert, shows.contains_iff, Finset.mem_insert]

theorem erase (shows : routing.Shows present) (slot : Slot) :
    (routing.erase slot).Shows (present.erase slot) where
  tidy := shows.tidy.erase slot
  contains_iff other := by
    rw [contains_erase, shows.contains_iff, Finset.mem_erase]

theorem slots_eq (shows : routing.Shows present) (service : String) :
    routing.slots service = Call.indicesIn present service := by
  apply (shows.tidy.pairwise_slots service).eq_of_mem_iff (Call.pairwise_indicesIn _ _)
  intro index
  rw [Call.mem_indicesIn, ← shows.contains_iff, Routing.contains_iff]

/-- A call is answered by a table as by the set that it shows, and leaves a table that shows what
the call leaves of the set. -/
theorem serve (shows : routing.Shows present) (call : Call) :
    (routing.serve call).1 = (call.onSet present).1 ∧
      (routing.serve call).2.Shows (call.onSet present).2 := by
  cases call with
  | add slot =>
    refine ⟨?_, shows.insert slot⟩
    simp [Routing.serve, add, Call.onSet, shows.contains_eq]
  | remove slot =>
    refine ⟨?_, shows.erase slot⟩
    simp [Routing.serve, remove, Call.onSet, shows.contains_eq]
  | routable service => exact ⟨congrArg Answer.slots (shows.slots_eq service), shows⟩

/-- What one call keeps, any number of calls keeps. -/
theorem run (shows : routing.Shows present) (calls : List Call) :
    (Call.run Routing.serve routing calls).1 = (Call.run Call.onSet present calls).1 ∧
      (Call.run Routing.serve routing calls).2.Shows (Call.run Call.onSet present calls).2 := by
  induction calls generalizing routing present with
  | nil => exact ⟨rfl, shows⟩
  | cons call later induction =>
    obtain ⟨answer, next⟩ := shows.serve call
    obtain ⟨answers, last⟩ := induction next
    exact ⟨congrArg₂ List.cons answer answers, last⟩

end Shows

/-! ## Tables after calls -/

/-- An empty table that has had some calls is a set of slots to whoever asks it or looks at it. -/
structure ActsAsSet (calls : List Call) : Prop where
  /-- Every call has been answered by what was in the set then. -/
  answers_eq : (Call.run serve empty calls).1 = (Call.run Call.onSet ∅ calls).1
  mem_listed_iff : ∀ slot,
    slot ∈ (Call.run serve empty calls).2.listed ↔ slot ∈ (Call.run Call.onSet ∅ calls).2
  nodup_listed : (Call.run serve empty calls).2.listed.Nodup
  /-- No service is in the table without a slot. -/
  stocked : ∀ entry ∈ (Call.run serve empty calls).2.table.entries, entry.2 ≠ []
  isEmpty_iff : (Call.run serve empty calls).2.table.isEmpty = true ↔
    (Call.run Call.onSet ∅ calls).2 = ∅

/-- A routing table is a set of slots, whatever calls are made on it. -/
theorem acts_as_set (calls : List Call) : ActsAsSet calls := by
  obtain ⟨answers, last⟩ := Shows.empty.run calls
  constructor
  case answers_eq => exact answers
  case mem_listed_iff =>
    intro slot
    rw [mem_listed, last.contains_iff]
  case nodup_listed => exact last.tidy.nodup_listed
  case stocked =>
    intro entry member
    exact (last.tidy.of_mem_entries member).1
  case isEmpty_iff =>
    rw [last.tidy.isEmpty_iff, Finset.eq_empty_iff_forall_notMem]
    exact forall_congr' fun slot => not_congr (last.contains_iff slot)

/-- A service leaves the table with its last slot, and a removal that finds nothing does not bring
it back. -/
example :
    Call.run serve empty [.add ⟨"app", 1⟩, .add ⟨"app", 0⟩, .add ⟨"app", 1⟩, .routable "app",
      .remove ⟨"app", 1⟩, .remove ⟨"app", 0⟩, .remove ⟨"app", 0⟩, .routable "app"] =
    ([.changed true, .changed true, .changed false, .slots [0, 1],
      .changed true, .changed true, .changed false, .slots []], empty) := by
  decide +kernel

end Convoy.Routing
