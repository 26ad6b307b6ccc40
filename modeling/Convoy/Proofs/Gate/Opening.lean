import Convoy.Proofs.Gate.Tour

/-!
# Targets that open

Each target opens at a time of its own and stays open, and an attempt takes no time. Every gate of a
tour then begins at a multiple of the interval, where the last one has ended, so that all attempts
of the tour lie on one grid. The tour is over at the first point of the grid at which all targets
are open. That point does not depend on the order in which the targets are waited for. The clock has to
reach the end of the time for that; if it does not, the tour crashes.
-/

namespace Convoy

/-- The least multiple of a unit that is not less than a duration. -/
def Duration.roundUp (unit duration : Duration) : Duration :=
  unit.scale (duration.nanos ⌈/⌉ unit.nanos)

/-- Whether attempts take no time and succeed exactly from the time on when their target opens, if
it ever does. The times count from an instant. -/
def Connector.Opens (connector : Connector) (begun : Duration)
    (opening : Address → Option Duration) : Prop :=
  ∀ target now budget, (connector target now budget).delay = .zero ∧
    ((connector target now budget).refusal = none ↔
      ∃ time, opening target = some time ∧ begun + time ≤ now)

theorem Connector.Opens.punctual {connector : Connector} {begun : Duration}
    {opening : Address → Option Duration} (opens : connector.Opens begun opening) :
    connector.Punctual := by
  intro target now budget
  rw [(opens target now budget).1]
  exact Nat.zero_le _

namespace Gate

/-- The time by which all of some targets have opened, if all of them do. -/
def allOpen? (opening : Address → Option Duration) : List Address → Option Duration
  | [] => some .zero
  | target :: rest =>
    match opening target, allOpen? opening rest with
    | some time, some others => some (max time others)
    | _, _ => none

variable {timer : Timer} {connector : Connector} {opening : Address → Option Duration}
  {begun timeout interval : Duration}

/-! ## When all targets are open -/

theorem allOpen?_cons_eq_some_iff {target : Address} {rest : List Address} {last : Duration} :
    allOpen? opening (target :: rest) = some last ↔
      ∃ time others, opening target = some time ∧ allOpen? opening rest = some others ∧
        last = max time others := by
  rw [allOpen?]
  cases opening target <;> cases allOpen? opening rest <;> simp [eq_comm]

/-- All targets are open at a time exactly if each of them is. -/
theorem exists_allOpen?_le_iff {targets : List Address} {bound : Duration} :
    (∃ last ≤ bound, allOpen? opening targets = some last) ↔
      ∀ target ∈ targets, ∃ time ≤ bound, opening target = some time := by
  induction targets with
  | nil =>
    exact iff_of_true ⟨.zero, Nat.zero_le _, rfl⟩ fun _ member => (List.not_mem_nil member).elim
  | cons target rest induction =>
    rw [List.forall_mem_cons, ← induction]
    constructor
    · rintro ⟨last, inTime, all⟩
      obtain ⟨time, others, opens, rest, rfl⟩ := allOpen?_cons_eq_some_iff.1 all
      exact ⟨⟨time, Nat.le_trans (Nat.le_max_left _ _) inTime, opens⟩,
        others, Nat.le_trans (Nat.le_max_right _ _) inTime, rest⟩
    · rintro ⟨⟨time, early, opens⟩, others, alsoEarly, rest⟩
      exact ⟨max time others, Nat.max_le.2 ⟨early, alsoEarly⟩,
        allOpen?_cons_eq_some_iff.2 ⟨time, others, opens, rest, rfl⟩⟩

/-- When all targets are open does not depend on their order, nor on how often one is listed. -/
theorem allOpen?_congr {targets others : List Address}
    (same : ∀ target, target ∈ others ↔ target ∈ targets) :
    allOpen? opening others = allOpen? opening targets := by
  have bounds (bound : Duration) : (∃ last ≤ bound, allOpen? opening others = some last) ↔
      ∃ last ≤ bound, allOpen? opening targets = some last := by
    simp only [exists_allOpen?_le_iff, same]
  cases first : allOpen? opening others with
  | none =>
    refine (Option.eq_none_iff_forall_ne_some.2 fun last all => ?_).symm
    obtain ⟨_, -, also⟩ := (bounds last).2 ⟨last, Nat.le_refl _, all⟩
    cases first.symm.trans also
  | some last =>
    obtain ⟨least, before, all⟩ := (bounds last).1 ⟨last, Nat.le_refl _, first⟩
    obtain ⟨also, after, again⟩ := (bounds least).2 ⟨least, Nat.le_refl _, all⟩
    obtain rfl := Option.some.inj (first.symm.trans again)
    rw [all]
    exact congrArg some (congrArg Duration.mk (Nat.le_antisymm after before))

/-! ## One gate -/

section Grid

variable {target : Address} {reached count : Nat}

/-- A point of the grid on which all attempts of a tour lie. -/
def point (interval begun : Duration) (count : Nat) : Duration :=
  begun + (max interval leastInterval).scale count

theorem spacing_pos (interval : Duration) : 0 < (max interval leastInterval).nanos :=
  Nat.lt_of_lt_of_le (by decide) (Nat.le_max_right _ _)

/-- How many intervals it takes until a time is reached. -/
def rounds (interval time : Duration) : Nat := time.nanos ⌈/⌉ (max interval leastInterval).nanos

theorem rounds_le_iff {time : Duration} :
    rounds interval time ≤ count ↔ time ≤ (max interval leastInterval).scale count :=
  ceilDiv_le_iff_le_mul (spacing_pos interval)

@[simp]
theorem rounds_zero (interval : Duration) : rounds interval .zero = 0 := zero_ceilDiv _

@[simp]
theorem rounds_max (interval first second : Duration) :
    rounds interval (max first second) = max (rounds interval first) (rounds interval second) :=
  (gc_mul_ceilDiv (spacing_pos interval)).monotone_l.map_max

/-- The gate for a target that is turned to at a point of the grid. -/
abbrev gateOn (timeout interval begun : Duration) (reached : Nat) (target : Address) : Gate :=
  gateAt timeout interval begun (point interval begun reached) target

/-- A gate that begins at a point of the grid makes its attempts at the points after it. -/
theorem due_gateOn :
    (gateOn timeout interval begun reached target).due (point interval begun reached) count =
      point interval begun (reached + count) := by
  apply congrArg Duration.mk
  show begun.nanos + (max interval leastInterval).nanos * reached +
      (max interval leastInterval).nanos * count =
    begun.nanos + (max interval leastInterval).nanos * (reached + count)
  rw [Nat.mul_add, Nat.add_assoc]

/-- The attempts of a gate that begins on the grid are those that lie before the end of the time. -/
theorem lt_slots_gateOn :
    count < (gateOn timeout interval begun reached target).slots ↔
      (max interval leastInterval).scale (reached + count) < timeout := by
  rw [lt_slots_iff, Duration.lt_iff, Duration.lt_iff]
  show (max interval leastInterval).nanos * count <
      timeout.nanos - (begun.nanos + (max interval leastInterval).nanos * reached - begun.nanos) ↔
    (max interval leastInterval).nanos * (reached + count) < timeout.nanos
  rw [Nat.add_sub_cancel_left, Nat.mul_add]
  omega

/-- An attempt succeeds from the first point of the grid on that is not before its target opens. -/
theorem succeeded_gateOn_iff (opens : connector.Opens begun opening) :
    ((gateOn timeout interval begun reached target).trial connector
        (point interval begun reached) count).succeeded = true ↔
      ∃ time, opening target = some time ∧ rounds interval time ≤ reached + count := by
  rw [Attempt.succeeded, Option.isNone_iff_eq_none]
  refine (opens target _ _).2.trans (exists_congr fun time => and_congr_right fun _ => ?_)
  rw [due_gateOn, rounds_le_iff]
  exact Nat.add_le_add_iff_left

/-- Attempts take no time. -/
theorem finished_gateOn (opens : connector.Opens begun opening) :
    ((gateOn timeout interval begun reached target).trial connector
        (point interval begun reached) count).finished =
      point interval begun (reached + count) := by
  show (gateOn timeout interval begun reached target).due (point interval begun reached) count +
    (connector target _ _).delay = _
  rw [(opens target _ _).1, due_gateOn]
  rfl

/-- A gate that is turned to before the end of the time has the deadline of the tour. -/
theorem deadline_gateOn (inTime : (max interval leastInterval).scale reached < timeout) :
    point interval begun reached + (gateOn timeout interval begun reached target).timeout =
      begun + timeout :=
  deadline_gateAt (Nat.le_add_right _ _) (Nat.add_le_add_left (Nat.le_of_lt inTime) _)

/-- A gate whose target opens in time ends at the first point of the grid after that. -/
theorem exists_wait_gateOn (exact : timer.Exact) (opens : connector.Opens begun opening)
    (fits : (begun + timeout).IsInstant) {time : Duration} (opensAt : opening target = some time)
    (inTime : (max interval leastInterval).scale (max reached (rounds interval time)) < timeout) :
    ∃ waited,
      ((gateOn timeout interval begun reached target).wait timer connector
        (point interval begun reached)).result = .ok waited ∧
      ((gateOn timeout interval begun reached target).wait timer connector
        (point interval begun reached)).finished =
          point interval begun (max reached (rounds interval time)) := by
  have turned : (max interval leastInterval).scale reached < timeout :=
    Nat.lt_of_le_of_lt (Nat.mul_le_mul_left _ (Nat.le_max_left _ _)) inTime
  obtain ⟨count, round⟩ :=
    Nat.exists_eq_add_of_le (Nat.le_max_left reached (rounds interval time))
  rw [round] at inTime ⊢
  have succeeded : ((gateOn timeout interval begun reached target).trial connector
      (point interval begun reached) count).succeeded = true :=
    (succeeded_gateOn_iff opens).2 ⟨time, opensAt, round ▸ Nat.le_max_right _ _⟩
  have first : ∀ earlier < count, ((gateOn timeout interval begun reached target).trial connector
      (point interval begun reached) earlier).succeeded = false := by
    intro earlier before
    refine Bool.eq_false_iff.2 fun already => ?_
    obtain ⟨other, same, early⟩ := (succeeded_gateOn_iff opens).1 already
    obtain rfl := Option.some.inj (opensAt.symm.trans same)
    omega
  obtain ⟨waited, -, finished, course⟩ :=
    wait_of_first exact opens.punctual (deadline_gateOn turned ▸ fits) (lt_slots_gateOn.2 inTime)
      succeeded first
  refine ⟨waited, by rw [course], ?_⟩
  rw [course]
  exact finished.trans (finished_gateOn opens)

/-- A gate whose target does not open in time fails. -/
theorem exists_error_wait_gateOn (exact : timer.Exact) (opens : connector.Opens begun opening)
    (late : ∀ time, opening target = some time →
      ¬ (max interval leastInterval).scale (max reached (rounds interval time)) < timeout) :
    ∃ cause, ((gateOn timeout interval begun reached target).wait timer connector
      (point interval begun reached)).result = .error cause := by
  have refused : ∀ count < (gateOn timeout interval begun reached target).slots,
      ((gateOn timeout interval begun reached target).trial connector
        (point interval begun reached) count).succeeded = false := by
    intro count inTime
    refine Bool.eq_false_iff.2 fun succeeded => ?_
    obtain ⟨time, opensAt, early⟩ := (succeeded_gateOn_iff opens).1 succeeded
    have before := Nat.max_le.2 ⟨Nat.le_add_right reached count, early⟩
    exact late time opensAt
      (Nat.lt_of_le_of_lt (Nat.mul_le_mul_left _ before) (lt_slots_gateOn.1 inTime))
  cases result : ((gateOn timeout interval begun reached target).wait timer connector
      (point interval begun reached)).result with
  | error cause => exact ⟨cause, rfl⟩
  | ok waited => exact absurd result (result_wait_of_none exact opens.punctual refused waited)

end Grid

/-! ## All gates -/

/-- If the clock reaches the end of the time, a tour from a point of the grid on succeeds exactly if
all targets are open at some point before it, and ends at the first of these points. -/
theorem tourFrom_point_eq_ok_iff (exact : timer.Exact) (opens : connector.Opens begun opening)
    (fits : (begun + timeout).IsInstant) {targets : List Address} {reached : Nat} {waited : Duration}
    (inTime : targets = [] → (max interval leastInterval).scale reached < timeout) :
    (tourFrom timer timeout interval begun (targets.map (·, connector))
        (point interval begun reached)).result = .ok waited ↔
      ∃ last, allOpen? opening targets = some last ∧
        waited = (max interval leastInterval).scale (max reached (rounds interval last)) ∧
          waited < timeout := by
  induction targets generalizing reached with
  | nil =>
    have spent : point interval begun reached - begun =
        (max interval leastInterval).scale reached :=
      congrArg Duration.mk (Nat.add_sub_cancel_left ..)
    show Except.ok (point interval begun reached - begun) = Except.ok waited ↔ _
    rw [spent]
    constructor
    · rintro ⟨⟩
      exact ⟨.zero, rfl, by simp, inTime rfl⟩
    · rintro ⟨last, same, whole, -⟩
      cases same
      simp [whole]
  | cons target rest induction =>
    by_cases early : ∃ time, opening target = some time ∧ (max interval leastInterval).scale
        (max reached (rounds interval time)) < timeout
    · obtain ⟨time, opensAt, early⟩ := early
      obtain ⟨spent, connected, finished⟩ := exists_wait_gateOn exact opens fits opensAt early
      rw [List.map_cons, tourFrom_of_reached connected]
      dsimp only
      rw [finished, induction fun _ => early]
      -- The other targets do not bring the tour back before the point that it has reached.
      constructor
      · rintro ⟨others, all, rfl, inTime⟩
        refine ⟨max time others, allOpen?_cons_eq_some_iff.2 ⟨_, _, opensAt, all, rfl⟩, ?_, inTime⟩
        rw [rounds_max, Nat.max_assoc]
      · rintro ⟨last, all, rfl, inTime⟩
        obtain ⟨same, others, also, behind, rfl⟩ := allOpen?_cons_eq_some_iff.1 all
        obtain rfl := Option.some.inj (opensAt.symm.trans also)
        refine ⟨others, behind, ?_, inTime⟩
        rw [rounds_max, Nat.max_assoc]
    · obtain ⟨error, failed⟩ := exists_error_wait_gateOn exact opens fun time opensAt inTime =>
        early ⟨time, opensAt, inTime⟩
      rw [List.map_cons, tourFrom_of_failed failed]
      refine iff_of_false (fun same => nomatch same) ?_
      rintro ⟨last, all, rfl, inTime⟩
      obtain ⟨time, others, opensAt, -, rfl⟩ := allOpen?_cons_eq_some_iff.1 all
      refine early ⟨time, opensAt, Nat.lt_of_le_of_lt (Nat.mul_le_mul_left _ ?_) inTime⟩
      rw [rounds_max, ← Nat.max_assoc]
      exact Nat.le_max_left _ _

/-- A tour succeeds exactly if the clock reaches the end of the time and, rounded up to whole
intervals, the time by which all targets have opened lies before it. -/
theorem waitAll_eq_ok_iff (exact : timer.Exact) (opens : connector.Opens begun opening)
    {targets : List Address} (some_ : targets ≠ []) {waited : Duration} :
    (waitAll timer connector targets timeout interval begun).result = .ok waited ↔
      (begun + timeout).IsInstant ∧ ∃ last, allOpen? opening targets = some last ∧
        waited = (max interval leastInterval).roundUp last ∧ waited < timeout := by
  by_cases fits : (begun + timeout).IsInstant
  · have course := @tourFrom_point_eq_ok_iff timer connector opening begun timeout interval exact
      opens fits targets 0 waited fun none_ => absurd none_ some_
    simp only [Nat.zero_max] at course
    exact course.trans (and_iff_right fits).symm
  · refine iff_of_false (fun reached => ?_) fun possible => fits possible.1
    exact (crashes_waitAll_of_lost some_ fits).ne_ok waited reached

theorem waitAll_keepsDeadline (exact : timer.Exact) (opens : connector.Opens begun opening)
    (targets : List Address) :
    KeepsDeadline timeout interval begun ((targets.map (·, connector)).map (·.1))
      (waitAll timer connector targets timeout interval begun) := by
  refine tourFrom_keepsDeadline exact (fun stop member => ?_) (Nat.le_refl _)
    (Nat.le_add_right _ _)
  obtain ⟨target, -, rfl⟩ := List.mem_map.1 member
  exact opens.punctual

/-- Where targets open one by one and no timer is late, a tour succeeds exactly if the clock reaches
the end of the time and the time by which all targets have opened, rounded up to whole intervals, lies
before it, and it takes just that long. So neither the order of the targets matters nor how often one
is listed, although they are waited for one after another. If the clock does not reach the end of the
time, the tour crashes. -/
theorem waitAll_result_iff (exact : timer.Exact) (opens : connector.Opens begun opening)
    {targets : List Address} (some_ : targets ≠ []) (timeout interval : Duration) :
    (∀ waited, (waitAll timer connector targets timeout interval begun).result = .ok waited ↔
      (begun + timeout).IsInstant ∧ ∃ last, allOpen? opening targets = some last ∧
        waited = (max interval leastInterval).roundUp last ∧ waited < timeout) ∧
    (∀ waited, (waitAll timer connector targets timeout interval begun).result = .ok waited →
      (waitAll timer connector targets timeout interval begun).finished = begun + waited) ∧
    (∀ others, (∀ target, target ∈ others ↔ target ∈ targets) → ∀ waited,
      (waitAll timer connector others timeout interval begun).result = .ok waited ↔
        (waitAll timer connector targets timeout interval begun).result = .ok waited) ∧
    (¬ (begun + timeout).IsInstant →
      Crashes (waitAll timer connector targets timeout interval begun).result) := by
  refine ⟨fun waited => waitAll_eq_ok_iff exact opens some_, fun waited reached => ?_,
    fun others same waited => ?_, fun lost => ?_⟩
  · exact ((waitAll_keepsDeadline exact opens targets).reached waited reached).1
  · have also : others ≠ [] := by
      rintro rfl
      obtain ⟨target, listed⟩ := List.exists_mem_of_ne_nil targets some_
      exact List.not_mem_nil ((same target).2 listed)
    rw [waitAll_eq_ok_iff exact opens also, waitAll_eq_ok_iff exact opens some_, allOpen?_congr same]
  · exact crashes_waitAll_of_lost some_ lost

/-- When a cache and a database open; nothing else ever does. -/
def staggered : Address → Option Duration
  | ⟨"redis", _⟩ => some (.ofMillis 1400)
  | ⟨"postgres", _⟩ => some (.ofMillis 2005)
  | _ => none

/-- Addresses that open when these do. -/
def staggered.answers : Connector := fun target now _ =>
  ⟨.zero, if (staggered target).any (· ≤ now) then none
    else some "Connection refused (os error 111)"⟩

theorem staggered_result :
    Timer.exact.Exact ∧ staggered.answers.Opens .zero staggered ∧
      (waitAll .exact staggered.answers [⟨"redis", 6379⟩, ⟨"postgres", 5432⟩] (.ofMillis 2200)
        (.ofMillis 1) .zero).result = .ok (.ofMillis 2010) ∧
      (waitAll .exact staggered.answers [⟨"postgres", 5432⟩, ⟨"redis", 6379⟩, ⟨"postgres", 5432⟩]
        (.ofMillis 2200) (.ofMillis 1) .zero).result = .ok (.ofMillis 2010) := by
  have exact : Timer.exact.Exact := fun _ _ => rfl
  have opens : staggered.answers.Opens .zero staggered := by
    intro target now budget
    have shift (time : Duration) : Duration.zero + time ≤ now ↔ time ≤ now := by
      rw [Duration.le_iff, Duration.le_iff, Duration.nanos_add, Duration.zero, Nat.zero_add]
    refine ⟨rfl, ?_⟩
    simp only [shift]
    unfold staggered.answers
    cases staggered target <;> simp
  obtain ⟨result, -, order, -⟩ := waitAll_result_iff exact opens
    (List.cons_ne_nil ⟨"redis", 6379⟩ [⟨"postgres", 5432⟩]) (.ofMillis 2200) (.ofMillis 1)
  have reached := (result (.ofMillis 2010)).2
    ⟨by decide, .ofMillis 2005, by decide +kernel, by decide +kernel, by decide⟩
  exact ⟨exact, opens, reached, (order _ (by simp) _).2 reached⟩

/-- The time of a target that is open from the beginning on. -/
def always (_ : Address) : Option Duration := some .zero

/-- Waiting for a target that is open does not succeed, if the time is longer than the clock can
count, although the wait would be over at once. -/
theorem always_crashes :
    Connector.Opens (fun _ _ _ => ⟨.zero, none⟩) .zero always ∧
      (max (.ofSeconds 1) leastInterval).roundUp .zero < .ofSeconds (584000000000 * 31557600) ∧
      Crashes (waitAll .exact (fun _ _ _ => ⟨.zero, none⟩) [⟨"127.0.0.1", 80⟩]
        (.ofSeconds (584000000000 * 31557600)) (.ofSeconds 1) .zero).result :=
  ⟨fun _ _ _ => ⟨rfl, by simp [always, Duration.le_iff, Duration.zero]⟩, by decide +kernel,
    crashes_waitAll_of_lost (List.cons_ne_nil _ _) (by decide)⟩

end Gate

end Convoy
