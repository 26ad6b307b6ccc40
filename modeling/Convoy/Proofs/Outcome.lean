import Mathlib.Data.List.Basic

/-!
# Computations that can fail

A computation of several steps gives a result if every step does. The lemmas here turn such a
computation into its steps, for a sequence of two, for one step for each item of a list, and for
checks that give nothing.
-/

namespace Convoy.Outcome

variable {ε ε' α β γ : Type}

theorem bind_eq_ok_iff {outcome : Except ε α} {next : α → Except ε β} {value : β} :
    outcome >>= next = .ok value ↔ ∃ first, outcome = .ok first ∧ next first = .ok value := by
  cases outcome with
  | error cause => simp [bind, Except.bind]
  | ok first => simp [bind, Except.bind]

theorem exists_bind_eq_ok_iff {outcome : Except ε α} {next : α → Except ε β} :
    (∃ value, outcome >>= next = .ok value) ↔
      ∃ first, outcome = .ok first ∧ ∃ value, next first = .ok value := by
  simp only [bind_eq_ok_iff]
  exact ⟨fun ⟨value, first, now, later⟩ => ⟨first, now, value, later⟩,
    fun ⟨first, now, value, later⟩ => ⟨value, first, now, later⟩⟩

/-- A check comes before what follows it. -/
theorem check_bind_eq_ok_iff {check : Except ε PUnit} {next : PUnit → Except ε β} {value : β} :
    check >>= next = .ok value ↔ check = .ok () ∧ next () = .ok value := by
  rw [bind_eq_ok_iff]
  exact ⟨fun ⟨_, passes, follows⟩ => ⟨passes, follows⟩, fun ⟨passes, follows⟩ =>
    ⟨_, passes, follows⟩⟩

theorem mapError_eq_ok_iff {change : ε → ε'} {outcome : Except ε α} {value : α} :
    outcome.mapError change = .ok value ↔ outcome = .ok value := by
  cases outcome <;> simp [Except.mapError]

theorem map_eq_ok_iff {change : α → β} {outcome : Except ε α} {value : β} :
    outcome.map change = .ok value ↔ ∃ first, outcome = .ok first ∧ change first = value := by
  cases outcome <;> simp [Except.map]

theorem pure_eq_ok_iff {first value : α} :
    (pure first : Except ε α) = .ok value ↔ first = value := by
  simp [pure, Except.pure]

/-- The result of a computation that gives one. -/
theorem eq_ok_get {outcome : Except ε α} (gives : outcome.toOption.isSome = true) :
    outcome = .ok (outcome.toOption.get gives) := by
  cases outcome with
  | error cause => cases gives
  | ok value => rfl

/-! ## One step for each item -/

theorem mapM_cons_eq_ok_iff
    {step : α → Except ε β} {item : α} {rest : List α} {values : List β} :
    (item :: rest).mapM step = .ok values ↔
      ∃ value later, step item = .ok value ∧ rest.mapM step = .ok later ∧
        value :: later = values := by
  rw [List.mapM_cons, bind_eq_ok_iff]
  simp only [bind_eq_ok_iff, pure_eq_ok_iff, exists_and_left]

/-- The results are what the steps give. -/
theorem mem_iff_of_mapM_eq_ok
    {step : α → Except ε β} {items : List α} {values : List β}
    (done : items.mapM step = .ok values) (value : β) :
    value ∈ values ↔ ∃ item ∈ items, step item = .ok value := by
  induction items generalizing values with
  | nil =>
    obtain rfl : [] = values := pure_eq_ok_iff.1 done
    simp
  | cons item rest induction =>
    obtain ⟨first, later, now, others, rfl⟩ := mapM_cons_eq_ok_iff.1 done
    simp [induction others, now, eq_comm]

/-- What each step keeps, all of them keep. -/
theorem map_eq_of_mapM_eq_ok
    {step : α → Except ε β} {items : List α} {values : List β} {before : α → γ} {after : β → γ}
    (done : items.mapM step = .ok values)
    (kept : ∀ item ∈ items, ∀ value, step item = .ok value → after value = before item) :
    values.map after = items.map before := by
  induction items generalizing values with
  | nil =>
    obtain rfl : [] = values := pure_eq_ok_iff.1 done
    rfl
  | cons item rest induction =>
    obtain ⟨first, later, now, others, rfl⟩ := mapM_cons_eq_ok_iff.1 done
    rw [List.map_cons, List.map_cons, kept item List.mem_cons_self first now,
      induction others fun other member => kept other (List.mem_cons_of_mem item member)]

theorem map_mapM_cons (step : α → Except ε β) (change : β → γ) (item : α) (rest : List α) :
    ((item :: rest).mapM step).map (List.map change) =
      ((step item).map change).bind fun value =>
        ((rest.mapM step).map (List.map change)).map (value :: ·) := by
  rw [List.mapM_cons]
  cases step item with
  | error cause => rfl
  | ok value => cases rest.mapM step <;> rfl

/-- If all steps show the same after a change, so do their results. -/
theorem map_mapM_congr {step other : α → Except ε β} {items : List α} {change : β → γ}
    (same : ∀ item ∈ items, (step item).map change = (other item).map change) :
    (items.mapM step).map (List.map change) = (items.mapM other).map (List.map change) := by
  induction items with
  | nil => rfl
  | cons item rest induction =>
    rw [map_mapM_cons, map_mapM_cons, same item List.mem_cons_self,
      induction fun later member => same later (List.mem_cons_of_mem item member)]

/-- If the steps give no results, the first of them that fails says why. -/
theorem exists_first_of_mapM_eq_error
    {step : α → Except ε β} {items : List α} {cause : ε}
    (failed : items.mapM step = .error cause) :
    ∃ before item after, items = before ++ item :: after ∧ step item = .error cause ∧
      ∀ earlier ∈ before, ∃ value, step earlier = .ok value := by
  induction items with
  | nil => cases failed
  | cons item rest induction =>
    rw [List.mapM_cons] at failed
    cases now : step item with
    | error first =>
      rw [now] at failed
      cases failed
      exact ⟨[], item, rest, rfl, now, by simp⟩
    | ok value =>
      have later : rest.mapM step = .error cause := by
        rw [now] at failed
        cases others : rest.mapM step <;> rw [others] at failed <;> cases failed
        rfl
      obtain ⟨before, culprit, after, rfl, fails, earlier⟩ := induction later
      exact ⟨item :: before, culprit, after, rfl, fails,
        List.forall_mem_cons.2 ⟨⟨value, now⟩, earlier⟩⟩

theorem exists_mapM_eq_ok_iff {step : α → Except ε β} {items : List α} :
    (∃ values, items.mapM step = .ok values) ↔ ∀ item ∈ items, ∃ value, step item = .ok value := by
  induction items with
  | nil => simp [pure, Except.pure]
  | cons item rest induction =>
    simp only [List.forall_mem_cons, ← induction, mapM_cons_eq_ok_iff]
    constructor
    · rintro ⟨_, value, later, now, others, -⟩
      exact ⟨⟨value, now⟩, later, others⟩
    · rintro ⟨⟨value, now⟩, later, others⟩
      exact ⟨_, value, later, now, others, rfl⟩

/-! ## Checks -/

theorem forIn_list_eq_ok_iff
    {check : α → Except ε PUnit} {items : List α} {done : PUnit} :
    (forIn items PUnit.unit fun item _ => do
        check item
        pure (ForInStep.yield PUnit.unit)) = Except.ok done ↔
      ∀ item ∈ items, check item = .ok () := by
  induction items with
  | nil => simp [pure, Except.pure]
  | cons item rest induction =>
    rw [List.forIn_cons, bind_eq_ok_iff, List.forall_mem_cons, ← induction]
    cases check item <;> simp [bind, Except.bind, pure, Except.pure]

theorem forIn_option_eq_ok_iff
    {check : α → Except ε PUnit} {item? : Option α} {done : PUnit} :
    (forIn item? PUnit.unit fun item _ => do
        check item
        pure (ForInStep.yield PUnit.unit)) = Except.ok done ↔
      ∀ item, item? = some item → check item = .ok () := by
  cases item? with
  | none => simp [pure, Except.pure]
  | some item => cases outcome : check item <;> simp [outcome, bind, Except.bind, pure, Except.pure]

end Convoy.Outcome
